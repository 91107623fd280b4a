import Reckoner.Expr.Evaluator

/-!
# Walks and folds (what the two stacks amount to)

A walk works off a stack of tasks. Seen from one subtree, the tasks below it and the
values already there are left as they are until the subtree is done (`walk_visit`), and
so a walk through a tree is the plain recursion on it, `fold`: the operands, left before
right, and then the operator. The two agree as actions, in every lawful monad, so they
do the same things in the same order.
-/

namespace Reckoner

namespace Visitor

variable {m : Type → Type} {β : Type} [Monad m] [LawfulMonad m] [MonadExcept Fault m]

/-- What a visitor makes of a tree, by recursion on the tree. -/
def fold (v : Visitor m β) : Node → m β
  | .value x => v.value x
  | .unary x o => v.unary x o
  | .foreign leaf => v.foreign leaf
  | .binary left right o => do
    let a ← v.fold left
    let b ← v.fold right
    v.binary a b o

/-- Visiting a subtree puts its value on the values and leaves the other tasks as they
are. -/
theorem walk_visit (v : Visitor m β) (n : Node) (rest : List Task) (values : List β) :
    v.walk (.visit n :: rest) values = (do
      let y ← v.fold n
      v.walk rest (y :: values)) := by
  induction n generalizing rest values with
  | value x => rw [walk, fold]
  | unary x o => rw [walk, fold]
  | foreign leaf => rw [walk, fold]
  | binary left right o ihleft ihright =>
      -- the left operand is done with the right one and the operator still among the tasks
      rw [walk, ihleft, fold, bind_assoc]
      refine bind_congr fun a => ?_
      rw [ihright, bind_assoc]
      refine bind_congr fun b => ?_
      rw [walk]

/-- A walk through a tree never runs out of values, and comes to the fold of the
tree. -/
theorem visit_eq_fold (v : Visitor m β) (n : Node) : v.visit n = v.fold n := by
  unfold visit
  rw [walk_visit, bind_assoc]
  calc (v.fold n >>= fun y => v.walk [] [y] >>= _)
      = v.fold n >>= pure := bind_congr fun y => by rw [walk, pure_bind]
    _ = v.fold n := bind_pure _

end Visitor

end Reckoner
