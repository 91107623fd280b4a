import Reckoner.Proofs.NestedLevels

/-!
# Runs of parsers (what parsing starts anew)

A parser can be driven step by step, in any order, and its steps may fail and leave it
anywhere (`Parser.after`). Parsing a whole source begins by setting the lexer to the source
and forgetting the token consumed last. The token ahead is only replaced, and if the very
first token of the source cannot be pulled, there is nothing to replace it with.

* `Parser.strict_after`: no operation changes how strict a parser is, which is all that a
  used parser has in common with a new one.
* `Parser.parse_run_of_refused`, `Parser.parse_run_of_pulled`: parsing, compared with
  parsing by a new parser.
* `Parser.parse_afresh`: both cases, after any run. The outcome never depends on the run, and
  the state left behind only where the first token is refused: then the token that was ahead
  before stays ahead (`Parser.parse_keeps_stale`).
-/

namespace Reckoner.Parser

open Reckoner.Action (Keeps)

/-! ## Operations -/

/-- What can be asked of a parser. -/
inductive Operation where
  | parse (source : Text)
  /-- Give the lexer another source. -/
  | reset (source : Text)
  /-- Pull the next token ahead, off the source that the lexer has. -/
  | fetch
  /-- Give the lexer another source and pull its first token ahead. -/
  | prime (source : Text)
  /-- Pull a token off the lexer, past the token ahead. -/
  | advance
  | consume (main alternative : TokenKind)
  | atEnd
  /-- Read off what the token ahead spells. -/
  | text
  | unary
  | power
  | factor
  | term
  deriving DecidableEq, Repr

/-- Carry out an operation and leave its result aside. -/
def perform : Operation → Action Parser Unit
  | .parse source => Functor.discard (parse source)
  | .reset source => reset source
  | .fetch => fetch
  | .prime source => prime source
  | .advance => Functor.discard advance
  | .consume main alternative => Functor.discard (consume main alternative)
  | .atEnd => Functor.discard atEnd
  | .text => Functor.discard currentText
  | .unary => Functor.discard unary.parse
  | .power => Functor.discard power.parse
  | .factor => Functor.discard factor.parse
  | .term => Functor.discard term.parse

/-- The parser that some operations leave behind, those that fail included. -/
def after (p : Parser) (ops : List Operation) : Parser :=
  ops.foldl (fun p op => ((perform op).run p).state) p

/-- What keeps the setting of a parser keeps its strictness. -/
theorem keeps_strict {α : Type} {x : Action Parser α} (h : Keeps setting x) : Keeps strict x :=
  fun p => congrArg Prod.fst (h p)

theorem strict_perform (op : Operation) : Keeps strict (perform op) := by
  have hdone {α : Type} {x : Action Parser α} (h : Keeps strict x) :
      Keeps strict (Functor.discard x) :=
    .bind h fun _ => .pure ()
  cases op with
  | parse source => exact hdone (strict_parse source)
  | reset source => exact .change fun _ => rfl
  | fetch => exact keeps_strict keeps_fetch
  | prime source => exact .bind (.change fun _ => rfl) fun _ => keeps_strict keeps_fetch
  | advance => exact hdone (keeps_strict keeps_advance)
  | consume main alternative => exact hdone (keeps_strict (keeps_consume main alternative))
  | atEnd => exact hdone (.bind (keeps_strict keeps_lookahead) fun _ => .pure _)
  | text => exact hdone (keeps_strict keeps_currentText)
  | unary => exact hdone (keeps_strict keeps_unary)
  | power => exact hdone (keeps_strict (keeps_level keeps_unary .power))
  | factor =>
      exact hdone (keeps_strict (keeps_level (keeps_level keeps_unary .power) .product))
  | term => exact hdone (keeps_strict keeps_term)

/-- No run changes how strict a parser is. -/
theorem strict_after (p : Parser) (ops : List Operation) : (p.after ops).strict = p.strict := by
  induction ops generalizing p with
  | nil => rfl
  | cons op ops ih => exact (ih _).trans (strict_perform op p)

/-! ## Parsing with a used parser -/

/-- The first significant token of the source is none that can be pulled. -/
def Refused (source : Text) : Prop :=
  (Token.significant source).head?.map (·.kind) = some .unknown

/-- The parser about to pull the first token of a source. -/
def atStart (p : Parser) (source : Text) : Parser :=
  { p with lexer := .ofText source, previous := none }

/-- What parsing does once the source is in place. -/
def parseOn (source : Text) : Action Parser Tree := do
  let first ← advance
  Action.change fun p => { p with current := some first }
  if first.kind = .eof then do
    Action.report .emptyInput
    return none
  else do
    let root ← term.parse
    finish
    Action.report (.parsed source)
    return some root

theorem parse_run (p : Parser) (source : Text) :
    (parse source).run p = (parseOn source).run (p.atStart source) :=
  Action.run_bind_change _ _ p

/-- Pulling a token does not look at the token ahead. -/
theorem advance_run_current (p : Parser) (current : Option Token) :
    advance.run { p with current } =
      { advance.run p with state := { (advance.run p).state with current } } := by
  unfold advance
  simp only [Action.run_of]
  split <;> rfl

/-- The first token can be pulled, or else it is refused. -/
theorem advance_atStart (p : Parser) (source : Text) :
    (Refused source ∧ ∃ e, (advance.run (p.atStart source)).outcome = .error e) ∨
      (¬ Refused source ∧ ∃ first, (advance.run (p.atStart source)).outcome = .ok first) := by
  have htokens : Token.significant source = (Lexer.ofText source).significants := rfl
  have houtcome := advance_outcome (p.atStart source)
  unfold Refused
  rw [htokens, Lexer.significants_eq]
  rw [show (p.atStart source).lexer = .ofText source from rfl, Lexer.significants_eq] at houtcome
  simp only [Scan.pull] at houtcome
  by_cases hkind : (Lexer.ofText source).significant.1.kind = .unknown
  · rw [if_pos hkind] at houtcome
    exact .inl ⟨congrArg some hkind, _, houtcome⟩
  · rw [if_neg hkind] at houtcome
    exact .inr ⟨fun h => hkind (Option.some.inj h), _, houtcome⟩

/-- A new parser pulls the first token of a source as any other does, but has no token
ahead meanwhile. -/
theorem advance_atStart_new (p : Parser) (source : Text) :
    advance.run ((new p.strict).atStart source) =
      { advance.run (p.atStart source) with
        state := { (advance.run (p.atStart source)).state with current := none } } :=
  advance_run_current (p.atStart source) none

/-- If the first token is refused, nothing happens but that, and the token ahead stays. -/
theorem parse_run_of_refused (p : Parser) {source : Text} (h : Refused source) :
    (parse source).run p =
        { (parse source).run (new p.strict) with
          state := { ((parse source).run (new p.strict)).state with current := p.current } } ∧
      ((parse source).run (new p.strict)).state.current = none := by
  rcases advance_atStart p source with ⟨-, e, herror⟩ | ⟨hpulled, -⟩
  · have hfresh : (advance.run ((new p.strict).atStart source)).outcome = .error e := by
      rw [advance_atStart_new]
      exact herror
    rw [parse_run, parse_run]
    unfold parseOn
    rw [Action.run_bind_error herror, Action.run_bind_error hfresh, advance_atStart_new,
      advance_run_state]
    exact ⟨rfl, rfl⟩
  · exact absurd h hpulled

/-- If the first token can be pulled, it replaces the token ahead, and everything is as it
is with a new parser. -/
theorem parse_run_of_pulled (p : Parser) {source : Text} (h : ¬ Refused source) :
    (parse source).run p = (parse source).run (new p.strict) := by
  rcases advance_atStart p source with ⟨hrefused, -⟩ | ⟨-, first, hfirst⟩
  · exact absurd hrefused h
  · have hfresh : (advance.run ((new p.strict).atStart source)).outcome = .ok first := by
      rw [advance_atStart_new]
      exact hfirst
    rw [parse_run, parse_run]
    unfold parseOn
    rw [Action.run_bind_ok hfirst, Action.run_bind_ok hfresh, Action.run_bind_change,
      Action.run_bind_change, advance_atStart_new]

/-- After any run, parsing a source has the outcome that it has with a new parser, and it
leaves the same lexer and the same consumed token. It leaves the same state altogether if
the first token of the source can be pulled. If not, a new parser has no token ahead, and the
used one has the token ahead that it had before. -/
theorem parse_afresh (strict : Bool) (ops : List Operation) (source : Text) :
    let p := (new strict).after ops
    let used := (parse source).run p
    let fresh := (parse source).run (new strict)
    used.outcome = fresh.outcome ∧ used.state.lexer = fresh.state.lexer ∧
      used.state.previous = fresh.state.previous ∧
      ((Token.significant source).head?.map (·.kind) ≠ some .unknown →
        used.state = fresh.state) ∧
      ((Token.significant source).head?.map (·.kind) = some .unknown →
        used.state.current = p.current ∧ fresh.state.current = none) := by
  intro p used fresh
  have hstrict : p.strict = strict := strict_after (new strict) ops
  have hfresh : fresh = (parse source).run (new p.strict) := by rw [hstrict]
  rw [hfresh]
  by_cases hrefused : Refused source
  · obtain ⟨hrun, hnone⟩ := parse_run_of_refused p hrefused
    have hused : used = _ := hrun
    rw [hused]
    exact ⟨rfl, rfl, rfl, fun h => absurd hrefused h, fun _ => ⟨rfl, hnone⟩⟩
  · have hused : used = _ := parse_run_of_pulled p hrefused
    rw [hused]
    exact ⟨rfl, rfl, rfl, fun _ => rfl, fun h => absurd h hrefused⟩

/-- A used parser that is given a source with a bad first token still has the token ahead
that another source has left there. -/
theorem parse_keeps_stale :
    ((parse "@").run ((new false).after [.parse "1"])).state.current = some ⟨.eof, 1, 1⟩ ∧
      ((parse "@").run (new false)).state.current = none := by
  decide +kernel

end Reckoner.Parser
