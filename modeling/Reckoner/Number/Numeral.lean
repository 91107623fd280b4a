import Reckoner.Text.Basic
import Reckoner.Text.Blank
import Reckoner.Text.DecimalDigit

/-!
# Reading numerals

A numeral is an optional sign before either a word for infinity or for no number, in
any case, or decimal digits with at most one point among them and perhaps a power of
ten behind. Blanks around it do not count, one underscore may stand between two
digits, and the digits and blanks of every script stand for their plain counterparts.
The float read is the one nearest to the number written, however many digits it has.
-/

namespace Reckoner.Number

/-- The plain counterpart of a character, if it can stand in a numeral at all. -/
def plain? (c : Char) : Option Char :=
  if c.toNat < 0x80 then some c
  else if Text.isBlank c then some ' '
  else (Text.digitValue? c).map Nat.digitChar

/-- Whether a character is a plain digit. -/
def isDigit (c : Char) : Bool :=
  '0' ≤ c && c ≤ '9'

/-- The text without its underscores, if each of them stands between two digits;
`afterDigit` tells whether a digit comes before the text. -/
def withoutUnderscores? (afterDigit : Bool) : Text → Option Text
  | [] => some []
  | '_' :: c :: rest =>
    if afterDigit && isDigit c then (withoutUnderscores? true rest).map (c :: ·) else none
  | c :: rest =>
    if c == '_' then none else (withoutUnderscores? (isDigit c) rest).map (c :: ·)

/-- The number that a run of digits spells. -/
def digitsValue (digits : Text) : Nat :=
  digits.foldl (fun n c => 10 * n + (c.toNat - '0'.toNat)) 0

/-- A sign, if there is one, and the text after it. -/
def signed (s : Text) : Bool × Text :=
  match s with
  | '-' :: rest => (true, rest)
  | '+' :: rest => (false, rest)
  | _ => (false, s)

/-- The words that numerals may be, in small letters. -/
def word? (s : Text) : Option Float :=
  let small := s.map Char.toLower
  if small == "inf" || small == "infinity" then some (1 / 0)
  else if small == "nan" then some (0 / 0)
  else none

/-- The power of ten behind the digits: nothing stands for zero, otherwise a mark and
at least one digit follow. -/
def power? (s : Text) : Option Int :=
  match s with
  | [] => some 0
  | mark :: rest =>
    let (negative, digits) := signed rest
    if (mark == 'e' || mark == 'E') && !digits.isEmpty && digits.all isDigit then
      some (if negative then -digitsValue digits else digitsValue digits)
    else none

/-- The nearest float to `count * 10 ^ unit`. -/
def nearest (count : Nat) (unit : Int) : Float :=
  if unit < 0 then Float.ofScientific count true unit.natAbs
  else Float.ofScientific count false unit.natAbs

/-- An unsigned decimal numeral: digits with at most one point, and at least one digit
before the power of ten. -/
def decimal? (s : Text) : Option Float :=
  let whole := s.takeWhile isDigit
  let rest := s.dropWhile isDigit
  let (fraction, rest) := match rest with
    | '.' :: rest => (rest.takeWhile isDigit, rest.dropWhile isDigit)
    | _ => ([], rest)
  if whole.isEmpty && fraction.isEmpty then none
  else (power? rest).map fun e => nearest (digitsValue (whole ++ fraction)) (e - fraction.length)

/-- The float that a text stands for, if the text is a numeral. -/
def read? (s : Text) : Option Float := do
  let plain ← s.mapM plain?
  let body ← withoutUnderscores? false (Text.trimOf Text.isAsciiBlank plain)
  let (negative, size) := signed body
  let x ← (word? size).or (decimal? size)
  return if negative then -x else x

/-- The nearest float to an integer, if one is in range. -/
def ofInt? (n : Int) : Option Float :=
  let x := Float.ofInt n
  if x.isInf then none else some x

end Reckoner.Number
