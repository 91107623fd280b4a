import Reckoner.Number.Decimal
import Reckoner.Number.Exact

/-!
# The shortest decimal that reads back

Every real close enough to a float rounds to it; these reals form an interval around
the float. `shortest` is the decimal in that interval with the fewest digits, and of
those the one nearest to the float. It looks on the grid of one digit, then of two, and
so on: if any point of a grid lies in the interval, so does one of the float's two
neighbours on that grid, so only these two are tried.
-/

namespace Reckoner.Number

/-- Whether the decimal of `c` units reads back as the float `m * 2 ^ q`. In quarters
of `2 ^ q`, the interval reaches two up and two down, one down if `m` is the mantissa of
a power of two, below which floats lie twice as close. Its ends round to the float
whose mantissa is even. -/
def readsBack (m : Nat) (q unit : Int) (c : Nat) : Bool :=
  let down := if m = leastFullMantissa ∧ q ≠ leastExponent then 1 else 2
  let low := onBinary unit (q - 2) (4 * m - down)
  let high := onBinary unit (q - 2) (4 * m + 2)
  let point := onGrid unit (q - 2) c
  if m % 2 = 0 then low ≤ point && point ≤ high
  else low < point && point < high

/-- Whether `c` rather than `c + 1` is nearer to `m * 2 ^ q`, a tie going to the even
of the two. -/
def nearerBelow (m : Nat) (q unit : Int) (c : Nat) : Bool :=
  let below := onBinary unit q m - onGrid unit q c
  let above := onGrid unit q (c + 1) - onBinary unit q m
  below < above || (below == above && c % 2 == 0)

/-- The nearest decimal with `digits` digits that reads back as `m * 2 ^ q`, if there
is one. -/
def shortestOn? (m : Nat) (q : Int) (digits : Nat) : Option Decimal :=
  let unit := order m q - digits + 1
  let c := onBinary unit q m / onGrid unit q 1
  match readsBack m q unit c, readsBack m q unit (c + 1) with
  | true, true => some ⟨if nearerBelow m q unit c then c else c + 1, unit⟩
  | true, false => some ⟨c, unit⟩
  | false, true => some ⟨c + 1, unit⟩
  | false, false => none

/-- Digits that are always enough to read back. -/
def enoughDigits : Nat := 17

/-- The decimal with the fewest digits that reads back as the positive `m * 2 ^ q`, and
of those the nearest. -/
def shortest (m : Nat) (q : Int) : Decimal :=
  ((List.range enoughDigits).findSome? fun n => shortestOn? m q (n + 1)).getD
    (.ofBinary m q)

end Reckoner.Number
