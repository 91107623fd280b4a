import Reckoner.Expr.Basic

/-!
# Trees of one shape

Two trees are alike if they differ in nothing but their numbers, and the numbers at one place
stand in a given relation: equality as floats for compared trees, one text for printed ones.
What the relation has, `Node.Alike` has as well.
-/

namespace Reckoner.Node

/-- One shape with the same kinds of nodes, the same operators and the same foreign leaves,
and numbers that `R` relates. -/
inductive Alike (R : Float → Float → Prop) : Node → Node → Prop
  | value {x y : Float} : R x y → Alike R (.value x) (.value y)
  | unary {x y : Float} (o : Option Operator) : R x y → Alike R (.unary x o) (.unary y o)
  | binary {left right left' right' : Node} (o : Option Operator) : Alike R left left' →
      Alike R right right' → Alike R (.binary left right o) (.binary left' right' o)
  | foreign (leaf : Foreign) : Alike R (.foreign leaf) (.foreign leaf)

/-- The numbers of a tree, from left to right. -/
def numbers : Node → List Float
  | .value x => [x]
  | .unary x _ => [x]
  | .binary left right _ => left.numbers ++ right.numbers
  | .foreign _ => []

variable {R : Float → Float → Prop} {a b c : Node}

/-- A tree is alike to itself if each of its numbers is related to itself. -/
theorem Alike.refl (h : ∀ x ∈ a.numbers, R x x) : a.Alike R a := by
  induction a with
  | value x => exact .value (h x (List.mem_singleton_self x))
  | unary x o => exact .unary o (h x (List.mem_singleton_self x))
  | binary left right o ihleft ihright =>
      exact .binary o (ihleft fun x hx => h x (List.mem_append_left _ hx))
        (ihright fun x hx => h x (List.mem_append_right _ hx))
  | foreign leaf => exact .foreign leaf

theorem Alike.symm (hR : ∀ {x y}, R x y → R y x) (h : a.Alike R b) : b.Alike R a := by
  induction h with
  | value hxy => exact .value (hR hxy)
  | unary o hxy => exact .unary o (hR hxy)
  | binary o _ _ ihleft ihright => exact .binary o ihleft ihright
  | foreign leaf => exact .foreign leaf

theorem Alike.trans (hR : ∀ {x y z}, R x y → R y z → R x z) (h : a.Alike R b)
    (h' : b.Alike R c) : a.Alike R c := by
  induction h generalizing c with
  | value hxy =>
      obtain ⟨hyz⟩ := h'
      exact .value (hR hxy hyz)
  | unary o hxy =>
      cases h' with
      | unary _ hyz => exact .unary o (hR hxy hyz)
  | binary o _ _ ihleft ihright =>
      cases h' with
      | binary _ hleft hright => exact .binary o (ihleft hleft) (ihright hright)
  | foreign leaf => exact h'

/-- Trees with the very same numbers are alike only if they are one tree. -/
theorem alike_eq_iff : a.Alike Eq b ↔ a = b := by
  constructor
  · intro h
    induction h with
    | value hxy => rw [hxy]
    | unary o hxy => rw [hxy]
    | binary o _ _ ihleft ihright => rw [ihleft, ihright]
    | foreign leaf => rfl
  · rintro rfl
    exact .refl fun _ _ => rfl

theorem alike_binary_iff {left right left' right' : Node} {o o' : Option Operator} :
    (binary left right o).Alike R (.binary left' right' o') ↔
      left.Alike R left' ∧ right.Alike R right' ∧ o = o' := by
  constructor
  · rintro ⟨⟩
    exact ⟨‹_›, ‹_›, rfl⟩
  · rintro ⟨hleft, hright, rfl⟩
    exact .binary o hleft hright

end Reckoner.Node
