import Reckoner.Proofs.SessionRuns

/-!
# Logs of sessions (what was evaluated since the last clearing)

Every operation comes down to evaluations, one after the other, with parsing between
them and clearing once in a while. The log of a run (`logAfter`) lists the evaluations
since the session was last cleared, each with the session as it found it, so that what a
session holds can be said in terms of its log.

A relation between sessions and logs that evaluating, parsing and clearing carry on
(`Carried`) is carried on by batches, by all operations and by whole runs
(`Carried.after`).
-/

namespace Reckoner.Session

/-- One evaluation in a run. -/
structure Evaluation where
  /-- The session as the evaluation finds it. -/
  session : Session
  source : Text

namespace Evaluation

/-- What the evaluation comes to. -/
def step (e : Evaluation) : Step Session Float :=
  (evaluate e.source).run e.session

/-- Whether there is a result. -/
def succeeded (e : Evaluation) : Bool :=
  e.step.outcome.isOk

/-- Whether the evaluation counts as one whose result was found. -/
def found (e : Evaluation) : Bool :=
  e.step.state.hits = e.session.hits + 1 ∧ e.step.state.misses = e.session.misses

/-- Whether the evaluation counts as one whose result was not found. -/
def missed (e : Evaluation) : Bool :=
  e.step.state.hits = e.session.hits ∧ e.step.state.misses = e.session.misses + 1

end Evaluation

/-- The sources that were evaluated with success. -/
def successes (log : List Evaluation) : List Text :=
  (log.filter (·.succeeded)).map (·.source)

/-- The evaluations of a batch, up to the one that ends it. -/
def batch (mode : ErrorMode) (s : Session) : List Text → List Evaluation
  | [] => []
  | source :: sources =>
    let e : Evaluation := ⟨s, source⟩
    match rowOf mode source e.step.outcome with
    | .ok _ => e :: batch mode e.step.state sources
    | .error _ => [e]

/-- The log behind an operation: clearing starts it again, and what an operation evaluates
is added to it. -/
def extend (log : List Evaluation) (s : Session) : Operation → List Evaluation
  | .evaluate source => log ++ [⟨s, source⟩]
  | .parse _ => log
  | .evaluateMany sources errors _ =>
    match ErrorMode.ofName errors with
    | .ok mode => log ++ batch mode s sources
    | .error _ => log
  | .clear => []

/-- The log behind some operations: the evaluations since the session was last cleared. -/
def logAfter (log : List Evaluation) (s : Session) : List Operation → List Evaluation
  | [] => log
  | op :: ops => logAfter (extend log s op) ((perform op).run s).state ops

/-! ## Working out a result -/

/-- Appraising a tree only reports. -/
theorem state_appraise (tree : Tree) (s : Session) : ((appraise tree).run s).state = s := by
  unfold appraise
  rw [Action.run_bind_state]
  cases tree.evaluate s.emptyResult with
  | error e => rfl
  | ok result => cases tree <;> rfl

/-- Where no result is kept, the parser moves and the miss is counted. Either that is all,
because there is no result, or the result is remembered. -/
theorem evaluate_run_of_unkept {s : Session} {source : Text} (h : s.cache.get? source = none) :
    let worked : Session :=
      { s with parser := ((Parser.parse source).run s.parser).state, misses := s.misses + 1 }
    (∃ e, ((evaluate source).run s).outcome = .error e ∧
        ((evaluate source).run s).state = worked) ∨
      ∃ x, ((evaluate source).run s).outcome =
          ((remember source x).run worked).outcome.map (fun _ => x) ∧
        ((evaluate source).run s).state = ((remember source x).run worked).state := by
  intro worked
  have hworked : ((parse source).run { s with misses := s.misses + 1 }).state = worked := rfl
  rw [evaluate_of_unkept h]
  cases hparse : ((parse source).run { s with misses := s.misses + 1 }).outcome with
  | error e =>
      rw [Action.run_bind_error hparse]
      exact .inl ⟨e, rfl, hworked⟩
  | ok tree =>
      rw [Action.run_bind_ok hparse, hworked]
      cases happraise : ((appraise tree).run worked).outcome with
      | error e =>
          rw [Action.run_bind_error happraise, state_appraise]
          exact .inl ⟨e, rfl, rfl⟩
      | ok x =>
          rw [Action.run_bind_ok happraise, state_appraise]
          refine .inr ⟨x, ?_⟩
          cases hremember : ((remember source x).run worked).outcome with
          | error e =>
              rw [Action.run_bind_error hremember]
              exact ⟨rfl, rfl⟩
          | ok u =>
              rw [Action.run_bind_ok hremember]
              exact ⟨rfl, rfl⟩

/-! ## What a run carries on -/

/-- What follows an action and keeps every session leaves what the action leaves. -/
theorem state_bind_of_keeps {α β : Type} {x : Action Session α} {f : α → Action Session β}
    (hf : ∀ a, Action.Keeps id (f a)) (s : Session) :
    ((x >>= f).run s).state = (x.run s).state := by
  cases h : (x.run s).outcome with
  | error e => rw [Action.run_bind_error h]
  | ok a =>
      rw [Action.run_bind_ok h]
      exact hf a _

/-- Only the rows of a batch bear on the session, and there are none if the error mode is
unknown. -/
theorem state_evaluateMany (sources : List Text) (errors : Text) (labels : Option (List Label))
    (s : Session) : ((evaluateMany sources errors labels).run s).state =
      match ErrorMode.ofName errors with
      | .ok mode => ((sources.mapM (row mode)).run s).state
      | .error _ => s := by
  unfold evaluateMany
  cases ErrorMode.ofName errors with
  | error e => rfl
  | ok mode =>
      refine state_bind_of_keeps (x := sources.mapM (row mode)) (fun rows => ?_) s
      refine .bind (.lift _) fun labels => ?_
      dsimp only
      split
      · exact .bind (.report _) fun _ => .pure _
      · exact .pure _

/-- Whatever holds of a session and its log holds of them behind an evaluation, a parsed
source and a clearing. -/
structure Carried (R : Session → List Evaluation → Prop) : Prop where
  evaluate {s : Session} {log : List Evaluation} (source : Text) : R s log →
    R ((Session.evaluate source).run s).state (log ++ [⟨s, source⟩])
  parse {s : Session} {log : List Evaluation} (source : Text) : R s log →
    R ((Session.parse source).run s).state log
  clear {s : Session} {log : List Evaluation} : R s log → R (Session.clear.run s).state []

namespace Carried

variable {R : Session → List Evaluation → Prop} (hR : Carried R) {s : Session}
  {log : List Evaluation}

include hR

theorem batch (mode : ErrorMode) (sources : List Text) (h : R s log) :
    R ((sources.mapM (row mode)).run s).state (log ++ Session.batch mode s sources) := by
  induction sources generalizing s log with
  | nil =>
      rw [show Session.batch mode s [] = [] from rfl, List.append_nil]
      exact h
  | cons source sources ih =>
      obtain ⟨hrow, hstate⟩ := row_run mode source s
      have hfirst := hR.evaluate source h
      rw [List.mapM_cons, Session.batch]
      cases houtcome : rowOf mode source (Evaluation.step ⟨s, source⟩).outcome with
      | error e =>
          rw [Action.run_bind_error (hrow.trans houtcome), hstate]
          exact hfirst
      | ok r =>
          rw [Action.run_bind_ok (hrow.trans houtcome), hstate,
            state_bind_of_keeps fun rows => .pure (r :: rows)]
          have hrest := ih hfirst
          rw [List.append_assoc] at hrest
          exact hrest

theorem perform (op : Operation) (h : R s log) :
    R ((Session.perform op).run s).state (extend log s op) := by
  cases op with
  | evaluate source =>
      rw [Session.perform, state_bind_of_keeps fun x => .pure (Answer.number x)]
      exact hR.evaluate source h
  | parse source =>
      rw [Session.perform, state_bind_of_keeps fun tree => .pure (Answer.tree tree)]
      exact hR.parse source h
  | evaluateMany sources errors labels =>
      rw [Session.perform, state_bind_of_keeps fun t => .pure (Answer.table t), state_evaluateMany]
      unfold extend
      dsimp only
      cases ErrorMode.ofName errors with
      | error e => exact h
      | ok mode => exact hR.batch mode sources h
  | clear => exact hR.clear h

theorem after (ops : List Operation) (h : R s log) :
    R (s.after ops) (logAfter log s ops) := by
  induction ops generalizing s log with
  | nil => exact h
  | cons op ops ih => exact ih (hR.perform op h)

end Carried

end Reckoner.Session
