import Reckoner.Action
import Reckoner.Lexer
import Reckoner.Number.Numeral

/-!
# The parser's tokens (one token of look-ahead)

The parser holds a lexer, the token ahead and the token consumed last. It moves on by
`consume`, which accepts a look-ahead of one of two kinds and pulls the next token in
its place. Numbers are read out of the lexer's source only after the token behind them
has been pulled, so a bad token there is reported before a malformed number.

A parser can be used step by step, and its lexer given another source between two
steps. Its tokens may then lie outside the source they are looked up in.

No text is carried from one step to the next: what a number token spells is taken from the
source anew each time (`Token.spelling?`), so that nothing but the lexer and the two tokens
can differ between two parsers of the same strictness.

`pending` bounds the tokens still to be consumed. Nothing the parser does by itself makes
it larger, and consuming a token makes it smaller.
-/

namespace Reckoner

/-- A parser between two steps. -/
structure Parser where
  /-- Whether input behind a complete expression is a fault. -/
  strict : Bool
  lexer : Lexer
  /-- The token consumed last. -/
  previous : Option Token
  /-- The token ahead. -/
  current : Option Token
  deriving DecidableEq, Repr

namespace Parser

/-- A parser that has not been used. -/
def new (strict : Bool) : Parser :=
  ⟨strict, .ofText [], none, none⟩

/-- What `consume` found. -/
inductive Consumed where
  /-- The end of the input, where there is nothing to consume. -/
  | ended
  /-- A token of the first kind. -/
  | main
  /-- A token of the second kind. -/
  | alternative
  deriving DecidableEq, Repr

/-- What a token of the given kind is to a `consume` for `main` or `alternative`. -/
def Consumed.of? (main alternative kind : TokenKind) : Option Consumed :=
  if kind = main then some .main
  else if kind = alternative then some .alternative
  else none

/-- The fault of asking a token that is not there for one of its features. -/
def missingToken (feature : Text) : Fault :=
  .noFeature .absent feature

/-- Pull the next significant token from the lexer. -/
def advance : Action Parser Token := .of fun p =>
  let t := p.lexer.significant.1
  let p' := { p with lexer := p.lexer.significant.2 }
  let source := p'.lexer.source
  if t.kind = .unknown then
    ⟨.error (.invalidToken t.start (t.text source)), p', Lexer.notes t source⟩
  else ⟨.ok t, p', []⟩

/-- The token ahead. -/
def lookahead : Action Parser Token := .of fun p =>
  match p.current with
  | some t => ⟨.ok t, p, []⟩
  | none => ⟨.error (missingToken "type"), p, []⟩

/-- Whether the token ahead is the end of the input. -/
def atEnd : Action Parser Bool := do
  return (← lookahead).kind = .eof

/-- What the token ahead spells in the lexer's source. -/
def currentText : Action Parser Text := do
  let t ← lookahead
  if t.kind = .eof then return "<end of input>"
  else return t.text (← Action.state).lexer.source

/-- Pull the next significant token ahead. If none can be pulled, the token ahead stays. -/
def fetch : Action Parser Unit := do
  let next ← advance
  Action.change fun p => { p with current := some next }

/-- Make the token ahead the one consumed last, and pull another in its place. -/
def shift : Action Parser Unit := do
  let t ← lookahead
  Action.change fun p => { p with previous := some t }
  fetch

/-- Consume the token ahead if it is of one of two kinds. -/
def consume (main alternative : TokenKind) : Action Parser Consumed := do
  let t ← lookahead
  if t.kind = .eof then return .ended
  else
    match Consumed.of? main alternative t.kind with
    | some found => do
      shift
      return found
    | none => Action.fail (.unexpectedToken t.start (← currentText))

/-- The token consumed last. -/
def consumed : Action Parser Token := .of fun p =>
  match p.previous with
  | some t => ⟨.ok t, p, []⟩
  | none => ⟨.error (missingToken "begin"), p, []⟩

/-- The number that a token spells in the lexer's source. -/
def number (t : Token) : Action Parser Float := do
  match t.spelling? (← Action.state).lexer.source with
  | none => Action.fail (.emptyNumber t.start)
  | some text =>
    match Number.read? text with
    | some x => return x
    | none => Action.fail (.malformedNumber t.start text)

/-- Give the lexer another source, and keep the tokens. -/
def reset (source : Text) : Action Parser Unit :=
  Action.change fun p => { p with lexer := p.lexer.reset source }

/-- Give the lexer another source and pull the first token ahead. -/
def prime (source : Text) : Action Parser Unit := do
  reset source
  fetch

/-! ## What is still to be consumed -/

/-- The characters ahead of the lexer, and one more for a token that can be consumed. -/
def pending (p : Parser) : Nat :=
  p.lexer.remaining +
    match p.current with
    | some t => if t.kind = .eof then 0 else 1
    | none => 0

/-- An action that never makes more of what is pending. -/
def Settling {α : Type} (x : Action Parser α) : Prop :=
  ∀ p, (x.run p).state.pending ≤ p.pending

namespace Settling

variable {α β : Type}

theorem of_state {x : Action Parser α} (h : ∀ p, (x.run p).state = p) : Settling x :=
  fun p => Nat.le_of_eq (congrArg pending (h p))

theorem pure (a : α) : Settling (Pure.pure a : Action Parser α) :=
  of_state fun _ => rfl

theorem fail (e : Fault) : Settling (Action.fail e : Action Parser α) :=
  of_state fun _ => rfl

theorem report (e : Event) : Settling (Action.report e : Action Parser Unit) :=
  of_state fun _ => rfl

theorem state : Settling (Action.state : Action Parser Parser) :=
  of_state fun _ => rfl

theorem lookahead : Settling Parser.lookahead :=
  of_state fun p => by
    unfold Parser.lookahead
    simp only [Action.run_of]
    split <;> rfl

theorem consumed : Settling Parser.consumed :=
  of_state fun p => by
    unfold Parser.consumed
    simp only [Action.run_of]
    split <;> rfl

theorem bind {x : Action Parser α} {f : α → Action Parser β} (hx : Settling x)
    (hf : ∀ a, Settling (f a)) : Settling (x >>= f) := by
  intro p
  cases h : (x.run p).outcome with
  | ok a => rw [Action.run_bind_ok h]; exact Nat.le_trans (hf a _) (hx p)
  | error e => rw [Action.run_bind_error h]; exact hx p

theorem currentText : Settling Parser.currentText := by
  unfold Parser.currentText
  refine bind lookahead fun t => ?_
  split
  · exact pure _
  · exact bind state fun _ => pure _

theorem number (t : Token) : Settling (Parser.number t) := by
  unfold Parser.number
  refine bind state fun p => ?_
  split
  · exact fail _
  · split
    · exact pure _
    · exact fail _

end Settling

/-- Pulling a token only moves the lexer on. -/
theorem advance_run_state (p : Parser) :
    (advance.run p).state = { p with lexer := p.lexer.significant.2 } := by
  unfold advance
  simp only [Action.run_of]
  split <;> rfl

/-- The token pulled is the next significant one. -/
theorem advance_run_outcome {p : Parser} {t : Token} (h : (advance.run p).outcome = .ok t) :
    t = p.lexer.significant.1 := by
  unfold advance at h
  simp only [Action.run_of] at h
  split at h
  · cases h
  · injection h with h
    exact h.symm

theorem lookahead_run {p : Parser} {t : Token} (hp : p.current = some t) :
    lookahead.run p = ⟨.ok t, p, []⟩ := by
  simp [lookahead, hp]

/-- Putting another token in the place of one that is not the end leaves less to be
consumed. -/
theorem pending_shift {p : Parser} {t : Token} (hp : p.current = some t) (ht : t.kind ≠ .eof) :
    (shift.run p).state.pending ≤ p.pending ∧
      ((shift.run p).outcome = .ok () → (shift.run p).state.pending < p.pending) := by
  have hpending : p.pending = p.lexer.remaining + 1 := by simp [pending, hp, ht]
  obtain ⟨q, hq⟩ : ∃ q, q = { p with previous := some t } := ⟨_, rfl⟩
  have hlexer : q.lexer = p.lexer := by rw [hq]
  have hcurrent : q.current = some t := by rw [hq]; exact hp
  have hle := q.lexer.remaining_significant_le
  have hrun : shift.run p = fetch.run q := by
    unfold shift
    rw [Action.run_bind_silent (lookahead_run hp)]
    exact Action.run_bind_silent (by rw [hq]; rfl)
  rw [hrun, hpending, ← hlexer]
  unfold fetch
  cases h : (advance.run q).outcome with
  | error e =>
    rw [Action.run_bind_error h, advance_run_state]
    refine ⟨?_, by intro h; cases h⟩
    simp only [pending, hcurrent, ht, if_false]
    omega
  | ok next =>
    rw [Action.run_bind_ok h, advance_run_state]
    have hlt : ({ q with lexer := q.lexer.significant.2, current := some next } :
        Parser).pending < q.lexer.remaining + 1 := by
      simp only [pending]
      split
      · omega
      · rename_i hk
        have := q.lexer.remaining_significant_lt (by rw [← advance_run_outcome h]; exact hk)
        omega
    exact ⟨Nat.le_of_lt hlt, fun _ => hlt⟩

/-- Consuming never leaves more to be consumed. -/
theorem Settling.consume (main alternative : TokenKind) :
    Settling (Parser.consume main alternative) := by
  intro p
  cases hp : p.current with
  | none =>
    have h : (Parser.lookahead.run p).outcome = .error (missingToken "type") := by
      simp [Parser.lookahead, hp]
    unfold Parser.consume
    rw [Action.run_bind_error h]
    exact Settling.lookahead p
  | some t =>
    unfold Parser.consume
    rw [Action.run_bind_silent (lookahead_run hp)]
    split
    · exact Settling.pure _ p
    · rename_i ht
      split
      · cases h : (shift.run p).outcome with
        | error e => rw [Action.run_bind_error h]; exact (pending_shift hp ht).1
        | ok a => rw [Action.run_bind_ok h]; exact (pending_shift hp ht).1
      · exact Settling.bind .currentText (fun _ => .fail _) p

/-- Consuming a token leaves less to be consumed. -/
theorem pending_consume_lt {p : Parser} {t : Token} {main alternative : TokenKind}
    {found : Consumed} (hp : p.current = some t) (ht : t.kind ≠ .eof)
    (h : ((consume main alternative).run p).outcome = .ok found) :
    ((consume main alternative).run p).state.pending < p.pending := by
  unfold consume at h ⊢
  rw [Action.run_bind_silent (lookahead_run hp)] at h ⊢
  rw [if_neg ht] at h ⊢
  split at h
  · cases hs : (shift.run p).outcome with
    | error e => rw [Action.run_bind_error hs] at h; cases h
    | ok a => rw [Action.run_bind_ok hs]; exact (pending_shift hp ht).2 hs
  · cases hs : (currentText.run p).outcome with
    | error e => rw [Action.run_bind_error hs] at h; cases h
    | ok a => rw [Action.run_bind_ok hs] at h; cases h

end Parser

end Reckoner
