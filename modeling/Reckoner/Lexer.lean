import Reckoner.Event

/-!
# The lexer (a cursor that cuts a source into tokens)

The lexer is a cursor into a source text. Each of its operations takes a token off the
text ahead of the cursor and moves the cursor behind it: `single` one character,
`spacing` and `numeric` a whole run, which may be empty, and `next` whichever of these
the next character calls for. At the end `next` answers with an end token and stays.

`next` uses up at least one character or answers with the end token, which is why the
iterations over it, `drain` and `significant`, come to an end.
-/

namespace Reckoner

/-- A cursor into a source text. -/
structure Lexer where
  source : Text
  /-- How many characters are behind the cursor. -/
  position : Nat
  /-- How many characters the source has. -/
  limit : Nat
  deriving DecidableEq, Repr

namespace Lexer

/-- The cursor at the start of a text. -/
def ofText (source : Text) : Lexer := ⟨source, 0, source.length⟩

/-- Start over with another text. -/
def reset (_ : Lexer) (source : Text) : Lexer := ofText source

/-- The text ahead of the cursor. -/
def rest (l : Lexer) : Text := l.source.drop l.position

/-- The cursor moved on by `n` characters. -/
def advance (l : Lexer) (n : Nat) : Lexer := { l with position := l.position + n }

/-- Whether a character separates tokens. -/
def isSpacing (c : Char) : Bool :=
  c == ' ' || c == '\t' || c == '\r' || c == '\n'

/-- Whether a character can be part of a number. -/
def isNumeric (c : Char) : Bool :=
  ('0' ≤ c && c ≤ '9') || c == '.'

/-! ## Taking tokens off -/

/-- Take one character as a token of the given kind, even behind the end. -/
def single (l : Lexer) (kind : TokenKind) : Token × Lexer :=
  (⟨kind, l.position, 1⟩, l.advance 1)

/-- Take the run of spacing ahead. -/
def spacing (l : Lexer) : Token × Lexer :=
  let run := l.rest.takeWhile isSpacing
  (⟨.whitespace, l.position, run.length⟩, l.advance run.length)

/-- The kind of a run of digits and points: a number has at most one point. -/
def numericKind (run : Text) : TokenKind :=
  if 1 < run.count '.' then .unknown else .number

/-- Take the run of digits and points ahead. -/
def numeric (l : Lexer) : Token × Lexer :=
  let run := l.rest.takeWhile isNumeric
  (⟨numericKind run, l.position, run.length⟩, l.advance run.length)

/-- Take the next token, or find the end. -/
def next (l : Lexer) : Token × Lexer :=
  match l.rest with
  | [] => (⟨.eof, l.limit, 1⟩, l)
  | c :: _ =>
    match TokenKind.ofChar? c with
    | some kind => l.single kind
    | none =>
      if isSpacing c then l.spacing
      else if isNumeric c then l.numeric
      else l.single .unknown

/-- What the lexer reports about a token it has taken off `source`: a run of digits and
points that is no number. -/
def notes (t : Token) (source : Text) : List Event :=
  match t.kind, t.text source with
  | .unknown, c :: run => if isNumeric c then [.malformedNumber t.start (c :: run)] else []
  | _, _ => []

/-! ## Iterating -/

/-- How many characters are ahead of the cursor. -/
def remaining (l : Lexer) : Nat := l.rest.length

theorem remaining_advance (l : Lexer) (n : Nat) :
    (l.advance n).remaining = l.remaining - n := by
  simp only [remaining, rest, advance, List.length_drop]
  omega

/-- The cursor never moves back. -/
theorem remaining_next_le (l : Lexer) : l.next.2.remaining ≤ l.remaining := by
  unfold next
  split
  · exact Nat.le_refl _
  · split
    · simp [single, remaining_advance]
    · split
      · simp [spacing, remaining_advance]
      · split
        · simp [numeric, remaining_advance]
        · simp [single, remaining_advance]

/-- Every token but the end token uses up a character. -/
theorem remaining_next_lt (l : Lexer) (h : l.next.1.kind ≠ .eof) :
    l.next.2.remaining < l.remaining := by
  revert h
  have run_pos : ∀ {p : Char → Bool} {c : Char} {cs : Text}, l.rest = c :: cs → p c = true →
      0 < (l.rest.takeWhile p).length := by
    intro p c cs hrest hp
    simp [hrest, hp]
  unfold next
  split
  · simp
  · rename_i c cs hrest
    have hpos : 0 < l.remaining := by simp [remaining, hrest]
    intro _
    split
    · simp only [single, remaining_advance]; omega
    · split
      · rename_i hc
        have := run_pos hrest hc
        simp only [spacing, remaining_advance]; omega
      · split
        · rename_i hc
          have := run_pos hrest hc
          simp only [numeric, remaining_advance]; omega
        · simp only [single, remaining_advance]; omega

/-- The remaining tokens up to and including the end token, and the cursor behind
them. -/
def drain (l : Lexer) : List Token × Lexer :=
  if l.next.1.kind = .eof then ([l.next.1], l.next.2)
  else
    let (tokens, last) := l.next.2.drain
    (l.next.1 :: tokens, last)
termination_by l.remaining
decreasing_by exact l.remaining_next_lt (by assumption)

/-- The next token that is not spacing, which may be the end token. -/
def significant (l : Lexer) : Token × Lexer :=
  if l.next.1.kind = .whitespace then l.next.2.significant
  else l.next
termination_by l.remaining
decreasing_by
  rename_i h
  exact l.remaining_next_lt (by rw [h]; decide)

/-- Skipping spacing never moves the cursor back. -/
theorem remaining_significant_le (l : Lexer) : l.significant.2.remaining ≤ l.remaining := by
  fun_induction significant l with
  | case1 l h ih => exact Nat.le_trans ih l.remaining_next_le
  | case2 l h => exact l.remaining_next_le

/-- A significant token other than the end token uses up a character. -/
theorem remaining_significant_lt (l : Lexer) (h : l.significant.1.kind ≠ .eof) :
    l.significant.2.remaining < l.remaining := by
  fun_induction significant l with
  | case1 l _ ih => exact Nat.lt_of_lt_of_le (ih h) l.remaining_next_le
  | case2 l _ => exact l.remaining_next_lt h

end Lexer

/-- All tokens of a text. -/
def Token.ofText (source : Text) : List Token :=
  (Lexer.ofText source).drain.1

end Reckoner
