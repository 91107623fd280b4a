import Reckoner.Expr.Walk

/-!
# Printed forms

A tree has two printed forms. The infix form is fully parenthesised and close to how
expressions are written. The constructor form spells out every node and operator, so it
tells apart all trees that differ.
-/

namespace Reckoner

/-- The two printed forms. -/
inductive Form where
  | infixed
  | constructors
  deriving DecidableEq, Repr

namespace Form

/-- A number in either form. -/
def value : Form → Float → Text
  | infixed, x => Text.ofFloat x
  | constructors, x => Text.joined ["ValueExpr(", Text.ofFloat x, ")"]

/-- A number under a unary operator. -/
def unary : Form → Float → Option Operator → Text
  | infixed, x, o => Text.joined ["(", Operator.symbolOf o, Text.ofFloat x, ")"]
  | constructors, x, o =>
    Text.joined ["UnaryExpr(", constructors.value x, ", ", Operator.describe o, ")"]

/-- Two printed operands under a binary operator. -/
def binary : Form → Text → Text → Option Operator → Text
  | infixed, left, right, o =>
    Text.joined ["(", left, " ", Operator.symbolOf o, " ", right, ")"]
  | constructors, left, right, o =>
    Text.joined ["BinaryExpr(", left, ", ", right, ", ", Operator.describe o, ")"]

/-- What printing does at each kind of node. -/
def printer (form : Form) : Visitor (Except Fault) Text where
  value x := .ok (form.value x)
  unary x o := .ok (form.unary x o)
  binary left right o := .ok (form.binary left right o)
  foreign leaf := .ok leaf.describe

end Form

/-- A node printed in the given form. -/
def Node.print (form : Form) (n : Node) : Except Fault Text :=
  form.printer.visit n

/-- A tree printed in the given form. The empty tree is nothing in the infix form. -/
def Tree.print (form : Form) : Tree → Except Fault Text
  | none => .ok (match form with
    | .infixed => []
    | .constructors => Text.joined ["ExpressionTree(", Foreign.absent.describe, ")"])
  | some root => do
    let text ← root.print form
    return match form with
      | .infixed => text
      | .constructors => Text.joined ["ExpressionTree(", text, ")"]

end Reckoner
