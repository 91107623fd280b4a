import Reckoner.Arithmetic
import Reckoner.Expr.Walk

/-!
# Evaluation

A tree is evaluated in post-order: operands before operators, left before right, every
node once. Whether a node has an operator that suits it is only found out when its
turn comes, so the fault of the first bad node in post-order is the one reported.

The binary operators are a parameter of the visitor. With `Operator.compute` in their
place the walk gives a float; with a kernel that acts in another monad it shows in which
order, and on which operands, the operators are called.
-/

namespace Reckoner

/-- A monad's own way of carrying out binary operators. -/
abbrev Kernel (m : Type → Type) := Operator → Float → Float → m Float

section

variable {m : Type → Type} [Monad m] [MonadExcept Fault m]

/-- A result or fault as an action of the monad. -/
def settle : Except Fault Float → m Float
  | .ok x => pure x
  | .error e => throw e

/-- What evaluation does at each kind of node. -/
def evaluator (kernel : Kernel m) : Visitor m Float where
  value x := pure x
  unary x o := settle (Operator.computeUnary o x)
  binary left right o :=
    match o with
    | some op => if op.isBinary then kernel op left right else throw (.invalidBinary o)
    | none => throw (.invalidBinary o)
  foreign leaf := throw (.unknownNode leaf.kind)

/-- The value of a node, with the binary operators carried out by `kernel`. -/
def Node.evaluateWith (kernel : Kernel m) (n : Node) : m Float :=
  (evaluator kernel).visit n

end

/-- The value of a node. -/
def Node.evaluate (n : Node) : Except Fault Float :=
  n.evaluateWith Operator.compute

end Reckoner
