import Reckoner.Fault

/-!
# Arithmetic (what the operators compute)

The operators work on binary floats with their usual rounding: results out of range are
infinite, and results that do not exist are no number. The one exception is division by
a zero of either sign, which is a fault.
-/

namespace Reckoner

/-- The number `-x`. -/
def negate (x : Float) : Float := -x

/-- The number `x` to the power `y`. Five exponents have a basic operation of their own,
which is used for them; it settles what a zero or an infinity with a minus sign comes to
under them. -/
def power (x y : Float) : Float :=
  if y == -1 then 1 / x
  else if y == 0 then 1
  else if y == 0.5 then x.sqrt
  else if y == 1 then x
  else if y == 2 then x * x
  else x.pow y

namespace Operator

/-- Whether an operator takes two operands. -/
def isBinary : Operator → Bool
  | identity => false
  | _ => true

/-- What a binary operator makes of its operands. -/
def compute (o : Operator) (left right : Float) : Except Fault Float :=
  match o with
  | add => .ok (left + right)
  | subtract => .ok (left - right)
  | multiply => .ok (left * right)
  | divide => if right == 0 then .error (.divisionByZero left) else .ok (left / right)
  | exponentiate => .ok (power left right)
  | identity => .error (.invalidBinary (some identity))

/-- What the operator of a unary node makes of the operand. -/
def computeUnary (o : Option Operator) (operand : Float) : Except Fault Float :=
  match o with
  | some identity => .ok operand
  | some subtract => .ok (negate operand)
  | _ => .error (.invalidUnary o)

end Operator

end Reckoner
