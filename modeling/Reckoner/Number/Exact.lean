/-!
# What a float stands for, exactly

A finite float is a sign, a natural mantissa and a power of two; nothing about its
decimal texts can be computed from less. `Exact.ofFloat` reads the three off the bit
pattern.
-/

namespace Reckoner.Number

/-- The exact value of a float. -/
inductive Exact where
  /-- No number at all. -/
  | nan
  /-- Beyond every finite float. -/
  | infinite (negative : Bool)
  /-- Plus or minus `mantissa * 2 ^ exponent`; zero has the mantissa zero. -/
  | finite (negative : Bool) (mantissa : Nat) (exponent : Int)
  deriving DecidableEq, Repr

/-- The exponent of the smallest positive float. -/
def leastExponent : Int := -1074

/-- The mantissa of a power of two: the smallest that a float above the smallest
exponent has. -/
def leastFullMantissa : Nat := Nat.pow 2 52

/-- The exact value of `x`. The exponent field is zero for a float without the leading
mantissa bit and all ones for a float that is not finite. -/
def Exact.ofFloat (x : Float) : Exact :=
  let bits := x.toBits.toNat
  let negative := decide (Nat.pow 2 63 ≤ bits)
  let field : Nat := bits / leastFullMantissa % Nat.pow 2 11
  let fraction : Nat := bits % leastFullMantissa
  if field = 2047 then
    if fraction = 0 then .infinite negative else .nan
  else if field = 0 then .finite negative fraction leastExponent
  else .finite negative (fraction + leastFullMantissa) (leastExponent + (field - 1 : Nat))

end Reckoner.Number
