import Reckoner.Number.Decimal

/-!
# Rounding to a number of significant digits

`significant digits m q` is the point nearest to `m * 2 ^ q` on the grid that gives it
`digits` digits. The value is exact, so a tie is a true tie; it goes to the even point.
-/

namespace Reckoner.Number

/-- `num / den` rounded to the nearest natural number, a tie going to the even one. -/
def roundedQuotient (num den : Nat) : Nat :=
  let below := num / den
  let twice := 2 * (num % den)
  if twice < den || (twice == den && below % 2 == 0) then below else below + 1

/-- The positive `m * 2 ^ q` rounded to `digits` significant digits. -/
def significant (digits : Nat) (m : Nat) (q : Int) : Decimal :=
  let unit := order m q - digits + 1
  ⟨roundedQuotient (onBinary unit q m) (onGrid unit q 1), unit⟩

end Reckoner.Number
