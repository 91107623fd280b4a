import Reckoner.Fault

/-!
# Walking a tree (post-order with two stacks)

Long expressions make deep trees, so trees are walked without recursion on them. One
stack holds what is left to do, the other the values of the subtrees that are done. A
binary node is met twice: first it makes room for its operands, left before right, and
then it takes their values off the second stack.

What is done at a node is a `Visitor`; evaluating and printing are two of them. A
visitor acts in a monad, so a walk also fixes the order of everything its visitor does.
-/

namespace Reckoner

/-- What to do at each kind of node. -/
structure Visitor (m : Type → Type) (β : Type) where
  value : Float → m β
  unary : Float → Option Operator → m β
  /-- At a binary node, given the values of its operands. -/
  binary : β → β → Option Operator → m β
  foreign : Foreign → m β

/-- Something left to do on a walk. -/
inductive Task where
  /-- Walk through a whole subtree. -/
  | visit (n : Node)
  /-- Finish a binary node whose operands are done. -/
  | finish (operator : Option Operator)
  deriving Repr

/-- How many tasks a walk through a tree takes. -/
def Node.tasks : Node → Nat
  | .binary left right _ => left.tasks + right.tasks + 2
  | _ => 1

/-- How many tasks a task takes, those it leads to included. -/
def Task.weight : Task → Nat
  | .visit n => n.tasks
  | .finish _ => 1

/-- How many tasks a stack of tasks takes. -/
def Task.total : List Task → Nat
  | [] => 0
  | t :: rest => t.weight + total rest

namespace Visitor

variable {m : Type → Type} {β : Type} [Monad m] [MonadExcept Fault m]

/-- Work off the tasks, given the values of what is done; the values left are the
result. -/
def walk (v : Visitor m β) : List Task → List β → m (List β)
  | [], values => pure values
  | .visit (.value x) :: rest, values => do
    let y ← v.value x
    walk v rest (y :: values)
  | .visit (.unary x o) :: rest, values => do
    let y ← v.unary x o
    walk v rest (y :: values)
  | .visit (.foreign leaf) :: rest, values => do
    let y ← v.foreign leaf
    walk v rest (y :: values)
  | .visit (.binary left right o) :: rest, values =>
    walk v (.visit left :: .visit right :: .finish o :: rest) values
  | .finish o :: rest, right :: left :: values => do
    let y ← v.binary left right o
    walk v rest (y :: values)
  | .finish _ :: _, _ => throw .emptyStack
termination_by tasks => Task.total tasks
decreasing_by all_goals simp only [Task.total, Task.weight, Node.tasks]; omega

/-- Walk through a tree and take the value of its root. -/
def visit (v : Visitor m β) (n : Node) : m β := do
  match ← v.walk [.visit n] [] with
  | y :: _ => pure y
  | [] => throw .emptyStack

end Visitor

end Reckoner
