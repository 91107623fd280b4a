import Reckoner.Text.Basic

/-!
# Blank characters

Lines typed by a reader or read from a file are trimmed of every character that
Unicode counts as white space, and of the four information separators besides.
Numerals know a narrower blank, ASCII's own six. The spacing between the tokens of an
expression is narrower still and is the lexer's business.
-/

namespace Reckoner.Text

/-- The blank characters, as ascending ranges with both ends included. -/
def blanks : List (Nat × Nat) :=
  [(0x09, 0x0D), (0x1C, 0x20), (0x85, 0x85), (0xA0, 0xA0), (0x1680, 0x1680), (0x2000, 0x200A),
    (0x2028, 0x2029), (0x202F, 0x202F), (0x205F, 0x205F), (0x3000, 0x3000)]

/-- Whether a character is blank. -/
def isBlank (c : Char) : Bool :=
  blanks.any fun (lo, hi) => lo ≤ c.toNat && c.toNat ≤ hi

/-- Whether a character is one of ASCII's blanks: the space and the five characters
from tab to carriage return. -/
def isAsciiBlank (c : Char) : Bool :=
  c == ' ' || (0x09 ≤ c.toNat && c.toNat ≤ 0x0D)

/-- `s` without the characters in `p` at its two ends. -/
def trimOf (p : Char → Bool) (s : Text) : Text :=
  ((s.dropWhile p).reverse.dropWhile p).reverse

/-- `s` without the blanks at its two ends. -/
def trim (s : Text) : Text :=
  trimOf isBlank s

end Reckoner.Text
