import Reckoner.Proofs.NestedLevels
import Reckoner.Session.Batch

/-!
# Runs of sessions (what was asked before never shows)

A session goes through many operations with one parser and one cache, and each operation
starts from what the one before has left, after a fault too. Still every outcome is the
one that a session of its own would give (`outcomes_alone`).

The invariant is `Faithful`: the settings of the session are those it was made with, and
every result in the cache is what its source comes to (`appraisal`). Nothing is asked of
the parser but its strictness, because parsing does not depend on more. An action
`ComesTo` an outcome if it has this outcome in every faithful session and leaves a
faithful one behind; this is closed under putting actions together, so that only
`evaluate` has to be looked into.
-/

namespace Reckoner

/-- Whether results can be kept at all: a limit that is no number shows itself when there
is something to keep. -/
def Limit.usable : Limit → Except Fault Unit
  | .unusable kind => .error (.unordered "<=" kind .integer)
  | _ => .ok ()

namespace Session

/-! ## Operations -/

/-- What can be asked of a session. -/
inductive Operation where
  | evaluate (source : Text)
  | parse (source : Text)
  | evaluateMany (sources : List Text) (errors : Text) (labels : Option (List Label))
  | clear
  deriving DecidableEq, Repr

/-- What a session answers. -/
inductive Answer where
  | number (x : Float)
  | tree (t : Tree)
  | table (t : Table)
  | done
  deriving DecidableEq, Repr

/-- Carry out an operation. -/
def perform : Operation → Action Session Answer
  | .evaluate source => do return .number (← evaluate source)
  | .parse source => do return .tree (← parse source)
  | .evaluateMany sources errors labels => do
    return .table (← evaluateMany sources errors labels)
  | .clear => do
    clear
    return .done

/-- The outcomes of operations carried out one after the other. -/
def outcomes (s : Session) : List Operation → List (Except Fault Answer)
  | [] => []
  | op :: ops =>
    let step := (perform op).run s
    step.outcome :: outcomes step.state ops

/-- The session that some operations leave behind. -/
def after (s : Session) (ops : List Operation) : Session :=
  ops.foldl (fun s op => ((perform op).run s).state) s

/-- The row of a source with the given outcome, or the fault that ends the batch. -/
def rowOf (mode : ErrorMode) (source : Text) : Except Fault Float → Except Fault Row
  | .ok result => .ok ⟨source, result, none⟩
  | .error fault =>
    match mode, fault.label? with
    | .coerce, some label => .ok ⟨source, noResult, some (label ++ ": " ++ fault.message)⟩
    | _, _ => .error fault

/-- The table of a batch if every source in it is evaluated by a session of its own. -/
def tableAlone (fresh : Session) (sources : List Text) (errors : Text)
    (labels : Option (List Label)) : Except Fault Table := do
  let mode ← ErrorMode.ofName errors
  let rows ← sources.mapM fun source => rowOf mode source ((evaluate source).run fresh).outcome
  let labels ← labelling rows.length labels
  return ⟨labels, rows⟩

/-- The outcome of an operation if every source in it has a session of its own. -/
def Operation.alone (fresh : Session) : Operation → Except Fault Answer
  | .evaluate source => ((Session.evaluate source).run fresh).outcome.map .number
  | .parse source => ((Session.parse source).run fresh).outcome.map .tree
  | .evaluateMany sources errors labels => (tableAlone fresh sources errors labels).map .table
  | .clear => .ok .done

/-! ## The invariant -/

/-- What a source comes to under the settings of a session, with no cache involved. -/
def appraisal (fresh : Session) (source : Text) : Except Fault Float := do
  let tree ← Scan.parse source fresh.parser.strict
  let result ← tree.evaluate fresh.emptyResult
  fresh.limit.usable
  return result

/-- A session has the settings that another one started with, and its cache holds nothing
but what sources come to under them. -/
structure Faithful (fresh s : Session) : Prop where
  strict : s.parser.strict = fresh.parser.strict
  limit : s.limit = fresh.limit
  emptyResult : s.emptyResult = fresh.emptyResult
  entries : ∀ entry ∈ s.cache.entries, appraisal fresh entry.1 = .ok entry.2

/-- A session without results is faithful to itself. -/
theorem Faithful.new (strict : Bool) (limit : Limit) (emptyResult : Except Fault Float) :
    Faithful (.new strict limit emptyResult) (.new strict limit emptyResult) where
  strict := rfl
  limit := rfl
  emptyResult := rfl
  entries := by
    intro entry hentry
    cases hentry

theorem Faithful.of_cache {fresh s : Session} (h : Faithful fresh s) {cache : Cache}
    (hits misses : Nat)
    (hcache : ∀ entry ∈ cache.entries, appraisal fresh entry.1 = .ok entry.2) :
    Faithful fresh { s with cache, hits, misses } :=
  ⟨h.strict, h.limit, h.emptyResult, hcache⟩

/-- What is put into the cache is the new result or was there before. -/
theorem Faithful.insert {fresh s : Session} (h : Faithful fresh s) {source : Text} {x : Float}
    (hx : appraisal fresh source = .ok x) :
    ∀ entry ∈ (s.cache.insert source x).entries, appraisal fresh entry.1 = .ok entry.2 := by
  intro entry hentry
  rcases List.mem_append.mp hentry with hmem | hmem
  · exact h.entries entry (List.mem_filter.mp hmem).1
  · rw [List.mem_singleton.mp hmem]
    exact hx

theorem Faithful.get? {fresh s : Session} (h : Faithful fresh s) {source : Text} {x : Float}
    (hx : s.cache.get? source = some x) : appraisal fresh source = .ok x := by
  obtain ⟨before, after, hentries, -⟩ := List.lookup_eq_some_iff.mp hx
  exact h.entries (source, x) (by rw [hentries]; simp)

/-- In every faithful session the action has the given outcome, and it leaves a faithful
session behind. -/
def ComesTo {α : Type} (fresh : Session) (x : Action Session α) (outcome : Except Fault α) :
    Prop :=
  ∀ s, Faithful fresh s → (x.run s).outcome = outcome ∧ Faithful fresh (x.run s).state

namespace ComesTo

variable {α β : Type} {fresh : Session}

theorem pure (a : α) : ComesTo fresh (Pure.pure a) (.ok a) :=
  fun _ hs => ⟨rfl, hs⟩

theorem fail (e : Fault) : ComesTo fresh (Action.fail e : Action Session α) (.error e) :=
  fun _ hs => ⟨rfl, hs⟩

theorem report (e : Event) : ComesTo fresh (Action.report e) (.ok ()) :=
  fun _ hs => ⟨rfl, hs⟩

theorem lift (x : Except Fault α) : ComesTo fresh (Action.lift x) x := by
  cases x with
  | ok a => exact pure a
  | error e => exact fail e

theorem attempt {x : Action Session α} {outcome : Except Fault α}
    (h : ComesTo fresh x outcome) : ComesTo fresh x.attempt (.ok outcome) :=
  fun s hs => ⟨congrArg Except.ok (h s hs).1, (h s hs).2⟩

theorem bind {x : Action Session α} {f : α → Action Session β} {outcome : Except Fault α}
    {g : α → Except Fault β} (hx : ComesTo fresh x outcome)
    (hf : ∀ a, outcome = .ok a → ComesTo fresh (f a) (g a)) :
    ComesTo fresh (x >>= f) (outcome >>= g) := by
  intro s hs
  obtain ⟨houtcome, hstate⟩ := hx s hs
  cases outcome with
  | error e =>
      rw [Action.run_bind_error houtcome]
      exact ⟨rfl, hstate⟩
  | ok a =>
      rw [Action.run_bind_ok houtcome]
      exact hf a rfl _ hstate

theorem map {x : Action Session α} {outcome : Except Fault α} (hx : ComesTo fresh x outcome)
    (f : α → β) : ComesTo fresh (do return f (← x)) (outcome.map f) := by
  have h := hx.bind (g := fun a => .ok (f a)) fun a _ => pure (f a)
  cases outcome <;> exact h

theorem mapM {f : α → Action Session β} {g : α → Except Fault β}
    (h : ∀ a, ComesTo fresh (f a) (g a)) (as : List α) :
    ComesTo fresh (as.mapM f) (as.mapM g) := by
  induction as with
  | nil => exact pure []
  | cons a as ih =>
      rw [List.mapM_cons, List.mapM_cons]
      exact (h a).bind fun b _ => ih.bind fun bs _ => pure (b :: bs)

end ComesTo

/-! ## What operations come to -/

section

variable (fresh : Session)

/-- Parsing depends on nothing but the strictness of the parser, and leaves it as it
is. -/
theorem comesTo_parse (source : Text) :
    ComesTo fresh (parse source) (Scan.parse source fresh.parser.strict) := by
  intro s hs
  refine ⟨?_, ?_, hs.limit, hs.emptyResult, hs.entries⟩
  · show ((Parser.parse source).run s.parser).outcome = _
    rw [Parser.outcome_parse, hs.strict]
  · exact (Parser.strict_parse source s.parser).trans hs.strict

theorem comesTo_appraise (tree : Tree) :
    ComesTo fresh (appraise tree) (tree.evaluate fresh.emptyResult) := by
  intro s hs
  have hreport (result : Float) :
      ComesTo fresh (do
        if tree.isSome then Action.report (.evaluated result)
        return result) (.ok result) := by
    split
    · exact (ComesTo.report _).bind fun _ _ => .pure result
    · exact .pure result
  have h := (ComesTo.lift (tree.evaluate fresh.emptyResult)).bind fun result _ => hreport result
  rw [show (tree.evaluate fresh.emptyResult >>= Except.ok) = tree.evaluate fresh.emptyResult from
    bind_pure _] at h
  unfold appraise
  rw [Action.run_bind_state, hs.emptyResult]
  exact h s hs

/-- Keeping a result of a source leaves a faithful session behind if it is what the
source comes to. -/
theorem comesTo_remember {source : Text} {x : Float}
    (hx : fresh.limit.usable = .ok () → appraisal fresh source = .ok x) :
    ComesTo fresh (remember source x) fresh.limit.usable := by
  intro s hs
  rw [← hs.limit] at hx ⊢
  unfold remember
  rw [Action.run_of]
  split
  · rename_i kind hlimit
    rw [hlimit]
    exact ⟨rfl, hs⟩
  · rename_i hlimit
    rw [hlimit]
    exact ⟨rfl, hs⟩
  · rename_i hunusable hoff
    -- there is a limit, so the result goes in, and the oldest one may go out
    have husable : s.limit.usable = .ok () := by
      cases hlimit : s.limit with
      | unusable kind => exact absurd hlimit (hunusable kind)
      | _ => rfl
    have hinsert := hs.insert (hx husable)
    rw [husable]
    dsimp only
    split
    · exact ⟨rfl, hs.of_cache _ _ fun entry hentry => hinsert entry (List.mem_of_mem_tail hentry)⟩
    · exact ⟨rfl, hs.of_cache _ _ hinsert⟩

/-- A kept result is the outcome, and moves to the back of the cache. -/
theorem evaluate_of_kept {s : Session} {source : Text} {x : Float}
    (h : s.cache.get? source = some x) : (evaluate source).run s =
      ⟨.ok x, { s with cache := s.cache.insert source x, hits := s.hits + 1 }, []⟩ := by
  have hlook : (lookUp source).run s = ⟨.ok (some x),
      { s with cache := s.cache.insert source x, hits := s.hits + 1 }, []⟩ := by
    simp [lookUp, h]
  unfold evaluate
  rw [Action.run_bind_silent hlook]
  rfl

/-- Without a kept result, the source is worked out. -/
theorem evaluate_of_unkept {s : Session} {source : Text} (h : s.cache.get? source = none) :
    (evaluate source).run s = (do
      let result ← appraise (← parse source)
      remember source result
      return result : Action Session Float).run { s with misses := s.misses + 1 } := by
  have hlook : (lookUp source).run s = ⟨.ok none, { s with misses := s.misses + 1 }, []⟩ := by
    simp [lookUp, h]
  unfold evaluate
  rw [Action.run_bind_silent hlook]

/-- Evaluating a source comes to what the source comes to, whether the result is found
in the cache or worked out. -/
theorem comesTo_evaluate (source : Text) :
    ComesTo fresh (evaluate source) (appraisal fresh source) := by
  -- without a kept result, the source is worked out in the order of `appraisal`
  have hmiss : ComesTo fresh (do
      let result ← appraise (← parse source)
      remember source result
      return result) (appraisal fresh source) := by
    refine (comesTo_parse fresh source).bind fun tree htree => ?_
    refine (comesTo_appraise fresh tree).bind fun x hx => ?_
    refine (comesTo_remember fresh fun husable => ?_).bind fun _ _ => .pure x
    unfold appraisal
    rw [htree]
    show (tree.evaluate fresh.emptyResult >>= _) = _
    rw [hx]
    show (fresh.limit.usable >>= _) = _
    rw [husable]
    rfl
  intro s hs
  cases hget : s.cache.get? source with
  | some x =>
      -- a kept result is right, and moving it to the back keeps it so
      have hx := hs.get? hget
      rw [evaluate_of_kept hget, hx]
      exact ⟨rfl, hs.of_cache _ _ (hs.insert hx)⟩
  | none =>
      rw [evaluate_of_unkept hget]
      exact hmiss _ (hs.of_cache _ _ hs.entries)

end

/-- The row of a source follows from the outcome of evaluating it, and nothing but that
bears on the session. -/
theorem row_run (mode : ErrorMode) (source : Text) (s : Session) :
    ((row mode source).run s).outcome = rowOf mode source ((evaluate source).run s).outcome ∧
      ((row mode source).run s).state = ((evaluate source).run s).state := by
  have hattempt : ((evaluate source).attempt.run s).outcome =
      .ok ((evaluate source).run s).outcome := rfl
  unfold row
  rw [Action.run_bind_ok hattempt]
  cases ((evaluate source).run s).outcome with
  | ok result => exact ⟨rfl, rfl⟩
  | error fault =>
      cases mode with
      | raise => exact ⟨rfl, rfl⟩
      | coerce =>
          cases hlabel : fault.label? with
          | none =>
              simp only [rowOf, hlabel]
              exact ⟨rfl, rfl⟩
          | some label =>
              simp only [rowOf, hlabel]
              exact ⟨rfl, rfl⟩

section

variable {fresh : Session} (hfresh : Faithful fresh fresh)

include hfresh

theorem comesTo_row (mode : ErrorMode) (source : Text) :
    ComesTo fresh (row mode source)
      (rowOf mode source ((evaluate source).run fresh).outcome) := by
  intro s hs
  obtain ⟨houtcome, hstate⟩ := comesTo_evaluate fresh source s hs
  obtain ⟨hrow, hleft⟩ := row_run mode source s
  rw [(comesTo_evaluate fresh source fresh hfresh).1, hrow, hleft, houtcome]
  exact ⟨rfl, hstate⟩

theorem comesTo_evaluateMany (sources : List Text) (errors : Text)
    (labels : Option (List Label)) : ComesTo fresh (evaluateMany sources errors labels)
      (tableAlone fresh sources errors labels) := by
  unfold evaluateMany tableAlone
  refine (ComesTo.lift _).bind fun mode _ => ?_
  refine (ComesTo.mapM (comesTo_row hfresh mode) sources).bind fun rows _ => ?_
  refine (ComesTo.lift _).bind fun labels _ => ?_
  dsimp only
  split
  · exact (ComesTo.report _).bind fun _ _ => .pure _
  · exact .pure _

/-- An operation comes to what it comes to alone. -/
theorem comesTo_perform (op : Operation) : ComesTo fresh (perform op) (op.alone fresh) := by
  cases op with
  | evaluate source =>
      have h := (comesTo_evaluate fresh source).map Answer.number
      rw [← (comesTo_evaluate fresh source fresh hfresh).1] at h
      exact h
  | parse source =>
      have h := (comesTo_parse fresh source).map Answer.tree
      rw [← (comesTo_parse fresh source fresh hfresh).1] at h
      exact h
  | evaluateMany sources errors labels =>
      exact (comesTo_evaluateMany hfresh sources errors labels).map Answer.table
  | clear =>
      intro s hs
      exact ⟨rfl, hs.of_cache _ _ fun entry hentry => absurd hentry List.not_mem_nil⟩

/-- The operations of a run come to what each of them comes to alone. -/
theorem outcomes_eq {s : Session} (hs : Faithful fresh s)
    (ops : List Operation) : s.outcomes ops = ops.map (Operation.alone fresh) := by
  induction ops generalizing s with
  | nil => rfl
  | cons op ops ih =>
      obtain ⟨houtcome, hstate⟩ := comesTo_perform hfresh op s hs
      show ((perform op).run s).outcome :: outcomes ((perform op).run s).state ops = _
      rw [houtcome, ih hstate]
      rfl

end

/-- Operations leave a faithful session behind. -/
theorem Faithful.after {fresh : Session} (hfresh : Faithful fresh fresh) {s : Session}
    (hs : Faithful fresh s) (ops : List Operation) : Faithful fresh (s.after ops) := by
  induction ops generalizing s with
  | nil => exact hs
  | cons op ops ih => exact ih (comesTo_perform hfresh op s hs).2

/-- Whatever a new session is asked for, in whatever order and with whatever faults in
between, every outcome is the one that a new session gives for the source alone. -/
theorem outcomes_alone (settings : Settings) (strict : Option Bool) (size : Option Int)
    (ops : List Operation) : (ofSettings settings strict size).outcomes ops =
      ops.map (Operation.alone (ofSettings settings strict size)) :=
  outcomes_eq (.new _ _ _) (.new _ _ _) ops

end Session

end Reckoner
