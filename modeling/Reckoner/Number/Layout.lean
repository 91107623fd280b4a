import Reckoner.Number.Shortest
import Reckoner.Number.Significant

/-!
# How floats are written

A layout settles how many digits a float is given and how they are set: with the point
at its place as long as the decimal exponent stays within bounds, in scientific form
outside them. Trailing zeros after the point are never written. Two layouts are in use,
`Layout.full`, which loses nothing and always shows that the number is a float, and
`Layout.display`, for results shown to a reader.
-/

namespace Reckoner.Number

/-- How many digits a float is given. -/
inductive Precision where
  /-- As few as read back. -/
  | shortest
  /-- So many significant digits. -/
  | digits (count : Nat)
  deriving DecidableEq, Repr

/-- The decisions of a number format. -/
structure Layout where
  precision : Precision
  /-- The least decimal exponent that is written with the point at its place. -/
  least : Int
  /-- The first decimal exponent that is too large for that. -/
  limit : Int
  /-- What follows a whole number. -/
  whole : Text

/-- The digits that read back, with a fraction even for whole numbers; scientific
below `1e-4` and from `1e16`. -/
def Layout.full : Layout := ⟨.shortest, -4, 16, ".0"⟩

/-- Ten significant digits, whole numbers without a fraction; scientific below `1e-4`
and from `1e10`. -/
def Layout.display : Layout := ⟨.digits 10, -4, 10, []⟩

/-- The digits of a decimal, without the zeros they end in. -/
def Decimal.leading (d : Decimal) : Text :=
  ((Text.ofNat d.count).reverse.dropWhile (· == '0')).reverse

/-- The power of ten that the first digit of a decimal counts. -/
def Decimal.exponent (d : Decimal) : Int :=
  d.unit + (digitCount d.count - 1)

/-- A power of ten in scientific form: always with a sign, and of two digits at least. -/
def powerOfTen (e : Int) : Text :=
  let digits := Text.ofNat e.natAbs
  'e' :: (if e < 0 then '-' else '+') ::
    (List.replicate (2 - digits.length) '0' ++ digits)

namespace Layout

/-- `digits` with the point at its place, the first digit counting `10 ^ e`. -/
def positional (l : Layout) (digits : Text) (e : Int) : Text :=
  if e < 0 then '0' :: '.' :: (List.replicate (-e - 1).toNat '0' ++ digits)
  else
    let before := e.toNat + 1
    let fraction := digits.drop before
    digits.take before ++ List.replicate (before - digits.length) '0' ++
      if fraction.isEmpty then l.whole else '.' :: fraction

/-- `digits` with the point after the first of them, and the power of ten behind. -/
def scientific (digits : Text) (e : Int) : Text :=
  let fraction := digits.drop 1
  digits.take 1 ++ (if fraction.isEmpty then [] else '.' :: fraction) ++ powerOfTen e

/-- A positive decimal in this layout. -/
def writeDecimal (l : Layout) (d : Decimal) : Text :=
  if l.least ≤ d.exponent && d.exponent < l.limit then l.positional d.leading d.exponent
  else scientific d.leading d.exponent

/-- The size of a finite value, its sign left out. -/
def writeMagnitude (l : Layout) (mantissa : Nat) (exponent : Int) : Text :=
  if mantissa = 0 then '0' :: l.whole
  else
    l.writeDecimal <| match l.precision with
      | .shortest => Number.shortest mantissa exponent
      | .digits count => significant count mantissa exponent

/-- A float in this layout. The sign of zero is written, that of a NaN is not. -/
def write (l : Layout) (x : Float) : Text :=
  match Exact.ofFloat x with
  | .nan => "nan"
  | .infinite negative => if negative then "-inf" else "inf"
  | .finite negative m q =>
    if negative then '-' :: l.writeMagnitude m q else l.writeMagnitude m q

end Layout

end Reckoner.Number

namespace Reckoner

/-- A float as every message and every printed tree shows it. -/
def Text.ofFloat (x : Float) : Text :=
  Number.Layout.full.write x

end Reckoner
