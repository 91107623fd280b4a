import Reckoner.Text.Basic

/-!
# Decimals and decimal grids

A decimal is a natural number of units, the unit being a power of ten. All multiples
of one unit form a grid. Whether a binary value `m * 2 ^ q` lies below, on or above a
point of a grid is decided without rounding: `onGrid` and `onBinary` carry the two
sides to one scale, where natural numbers compare.
-/

namespace Reckoner.Number

/-- The decimal `count * 10 ^ unit`. -/
structure Decimal where
  count : Nat
  unit : Int
  deriving DecidableEq, Repr

/-- `m * base ^ n` for an exponent that is not negative; a negative one leaves `m`. -/
def scaleUp (base : Nat) (n : Int) (m : Nat) : Nat :=
  m * Nat.pow base n.toNat

/-- The point `c * 10 ^ unit`, on the scale it shares with `onBinary unit q`. -/
def onGrid (unit q : Int) (c : Nat) : Nat :=
  scaleUp 2 (-q) (scaleUp 10 unit c)

/-- The value `m * 2 ^ q`, on the scale it shares with `onGrid unit q`. -/
def onBinary (unit q : Int) (m : Nat) : Nat :=
  scaleUp 10 (-unit) (scaleUp 2 q m)

/-- How many decimal digits `n` has; zero has one. -/
def digitCount (n : Nat) : Nat :=
  (Nat.toDigits 10 n).length

/-- The greatest `e` with `10 ^ e ≤ m * 2 ^ q`, for a positive `m`. -/
def order (m : Nat) (q : Int) : Int :=
  let num := scaleUp 2 q m
  let den := scaleUp 2 (-q) 1
  if den ≤ num then digitCount (num / den) - 1
  else
    let k := digitCount (den / num) - 1
    if den = scaleUp 10 k num then -k else -(k + 1)

/-- The decimal equal to `m * 2 ^ q`: halving is multiplying by five and taking a
tenth. -/
def Decimal.ofBinary (m : Nat) (q : Int) : Decimal :=
  if 0 ≤ q then ⟨scaleUp 2 q m, 0⟩ else ⟨scaleUp 5 (-q) m, q⟩

end Reckoner.Number
