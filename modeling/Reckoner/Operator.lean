import Reckoner.Token

/-!
# Operators

The five binary operators, and the identity that only a unary node carries. A node may
also lack its operator altogether, which is why nodes hold an `Option Operator` and the
two printed forms below take one.
-/

namespace Reckoner

/-- An operation on numbers. -/
inductive Operator where
  | identity
  | add
  | subtract
  | multiply
  | divide
  | exponentiate
  deriving DecidableEq, Repr

namespace Operator

/-- Every operator, in the order of declaration. -/
def all : List Operator :=
  [identity, add, subtract, multiply, divide, exponentiate]

/-- The word for an operator. -/
def word : Operator → Text
  | identity => "none"
  | add => "add"
  | subtract => "subtract"
  | multiply => "multiply"
  | divide => "divide"
  | exponentiate => "exponentiate"

/-- The name of an operator: its word in capitals. -/
def name (o : Operator) : Text :=
  o.word.map Char.toUpper

/-- How an operator is written in an expression. -/
def symbol : Operator → Text
  | identity => []
  | add => "+"
  | subtract => "-"
  | multiply => "*"
  | divide => "/"
  | exponentiate => "^"

/-- The operator that a kind of token stands for. -/
def ofKind? : TokenKind → Option Operator
  | .plus => some add
  | .minus => some subtract
  | .times => some multiply
  | .slash => some divide
  | .caret => some exponentiate
  | _ => none

/-- The symbol of a node's operator; a question mark if it has none. -/
def symbolOf : Option Operator → Text
  | some o => o.symbol
  | none => "?"

/-- The full name of a node's operator. -/
def describe : Option Operator → Text
  | some o => "MathOperator." ++ o.name
  | none => "None"

end Operator

end Reckoner
