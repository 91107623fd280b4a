import Mathlib.Data.List.Forall2
import Reckoner.Expr.Signature
import Reckoner.Proofs.Shapes

/-!
# Signatures (flat lists of nodes that determine their trees)

A signature has no brackets. That it says where every subtree ends is seen from the signature
with anything behind it: of two such lists, the front parts are signatures of trees alike, and
what is behind them is related as well (`Node.forall₂_preorder_append`). Nothing more is needed
for comparing trees by their signatures.

* `Number.equal_iff`: which floats are equal.
* `Node.entries_eq`: the nodes listed with a stack are the nodes in pre-order.
* `Node.equal_iff`: the signatures of two trees are equal if and only if the trees are alike.
* `Node.equal_structural`: equality of trees, through their signatures.
-/

namespace Reckoner

/-! ## Equal floats -/

namespace Number

open Float.Model Float.Model.UnpackedFloat

/-- Numbers are equal as floats are: the two zeros are equal, and no number at all is equal to
nothing. -/
def Equal (x y : Float) : Prop :=
  (x == y) = true

/-- A float taken apart into sign, mantissa and exponent. -/
def unpacked (x : Float) : UnpackedFloat :=
  x.toModel.unpack

/-- Comparison finds nothing equal but a number and itself, and zeros. -/
theorem eq_or_zeros_of_compare {a b : UnpackedFloat} (h : a.compare b = some .eq) :
    (a = b ∧ a ≠ .notANumber) ∨ ((∃ s, a = .zero s) ∧ ∃ s, b = .zero s) := by
  cases a with
  | notANumber => cases h
  | infinity s =>
      cases b with
      | infinity t =>
          refine .inl ⟨?_, nofun⟩
          cases s <;> cases t <;> first | rfl | cases h
      | _ => cases s <;> cases h
  | zero s =>
      cases b with
      | zero t => exact .inr ⟨⟨s, rfl⟩, t, rfl⟩
      | notANumber => cases h
      | infinity t => cases t <;> cases h
      | finite t => cases t <;> cases h
  | finite s m e =>
      cases b with
      | notANumber => cases h
      | infinity t => cases s <;> cases t <;> cases h
      | zero t => cases s <;> cases h
      | finite t n f =>
          have hparts : s = t ∧ compare e f = .eq ∧ compare m n = .eq := by
            cases s <;> cases t <;> first
              | cases h
              | exact ⟨rfl, Ordering.then_eq_eq.mp (Option.some.inj h)⟩
              | exact ⟨rfl, Ordering.then_eq_eq.mp (Ordering.swap_eq_eq.mp (Option.some.inj h))⟩
          obtain ⟨rfl, hexponent, hmantissa⟩ := hparts
          obtain rfl := Std.LawfulEqOrd.eq_of_compare hexponent
          obtain rfl := Std.LawfulEqOrd.eq_of_compare hmantissa
          exact .inl ⟨rfl, nofun⟩

theorem compare_self {a : UnpackedFloat} (h : a ≠ .notANumber) : a.compare a = some .eq := by
  cases a with
  | notANumber => exact absurd rfl h
  | infinity s => cases s <;> rfl
  | zero s => rfl
  | finite s m e =>
      have hparts : (compare e e).then (compare m m) = .eq :=
        Ordering.then_eq_eq.mpr ⟨Std.ReflOrd.compare_self, Std.ReflOrd.compare_self⟩
      cases s with
      | positive => exact congrArg some hparts
      | negative => exact congrArg some (Ordering.swap_eq_eq.mpr hparts)

/-- Floats are equal if they are the same and a number, or zeros of whatever sign. -/
theorem equal_iff {x y : Float} : Equal x y ↔
    (unpacked x = unpacked y ∧ unpacked x ≠ .notANumber) ∨
      ((∃ s, unpacked x = .zero s) ∧ ∃ s, unpacked y = .zero s) := by
  have hcompare : Equal x y ↔ (unpacked x).compare (unpacked y) = some .eq :=
    beq_iff_eq (α := Option Ordering)
  rw [hcompare]
  constructor
  · exact eq_or_zeros_of_compare
  · rintro (⟨heq, hnan⟩ | ⟨⟨s, hx⟩, t, hy⟩)
    · exact heq ▸ compare_self hnan
    · rw [hx, hy]
      rfl

example : ((0 : Float) == -0) = true := by decide

theorem Equal.refl {x : Float} (h : x.isNaN = false) : Equal x x := by
  refine equal_iff.mpr (.inl ⟨rfl, fun hx => ?_⟩)
  have hnan : x.isNaN = (unpacked x).isNaN := rfl
  rw [hnan, hx] at h
  cases h

theorem Equal.symm {x y : Float} (h : Equal x y) : Equal y x := by
  rw [equal_iff] at h ⊢
  obtain ⟨heq, hnan⟩ | ⟨hx, hy⟩ := h
  · exact .inl ⟨heq.symm, heq ▸ hnan⟩
  · exact .inr ⟨hy, hx⟩

theorem Equal.trans {x y z : Float} (hxy : Equal x y) (hyz : Equal y z) : Equal x z := by
  rw [equal_iff] at hxy hyz ⊢
  obtain ⟨hx, hnan⟩ | ⟨hx, hy⟩ := hxy
  · rwa [hx]
  · obtain ⟨heq, -⟩ | ⟨-, hz⟩ := hyz
    · exact .inr ⟨hx, heq ▸ hy⟩
    · exact .inr ⟨hx, hz⟩

end Number

/-! ## Lists of nodes -/

open Number (Equal)

/-- Entries of one kind with the same operator or foreign leaf, and numbers that `R`
relates. -/
inductive Entry.Alike (R : Float → Float → Prop) : Entry → Entry → Prop
  | value {x y : Float} : R x y → Alike R (.value x) (.value y)
  | unary {x y : Float} (o : Option Operator) : R x y → Alike R (.unary x o) (.unary y o)
  | binary (o : Option Operator) : Alike R (.binary o) (.binary o)
  | foreign (leaf : Foreign) : Alike R (.foreign leaf) (.foreign leaf)

theorem Entry.beq_iff {d e : Entry} : (d == e) = true ↔ d.Alike Equal e := by
  constructor
  · intro h
    cases d <;> cases e <;> try exact Bool.noConfusion h
    case value x y => exact .value h
    case unary x o y p =>
        obtain ⟨hxy, hop⟩ := Bool.and_eq_true_iff.mp h
        rw [beq_iff_eq.mp hop]
        exact .unary p hxy
    case binary o p =>
        rw [beq_iff_eq.mp (show (o == p) = true from h)]
        exact .binary p
    case foreign leaf leaf' =>
        rw [beq_iff_eq.mp (show (leaf == leaf') = true from h)]
        exact .foreign leaf'
  · intro h
    cases h with
    | value hxy => exact hxy
    | unary o hxy => exact Bool.and_eq_true_iff.mpr ⟨hxy, beq_self_eq_true o⟩
    | binary o => exact beq_self_eq_true o
    | foreign leaf => exact beq_self_eq_true leaf

/-- Lists of entries are equal if their entries are, one after the other. -/
theorem Entry.list_beq_iff {ds es : List Entry} :
    (ds == es) = true ↔ List.Forall₂ (Entry.Alike Equal) ds es := by
  induction ds generalizing es with
  | nil => cases es <;> simp
  | cons d ds ih =>
      cases es with
      | nil => simp
      | cons e es =>
          rw [List.cons_beq_cons, Bool.and_eq_true_iff, beq_iff, ih, List.forall₂_cons]

namespace Node

/-- The nodes of a tree, the operator before its operands and the left one before the right
one. -/
def preorder : Node → List Entry
  | .value x => [.value x]
  | .unary x o => [.unary x o]
  | .binary left right o => .binary o :: (left.preorder ++ right.preorder)
  | .foreign leaf => [.foreign leaf]

/-- The stack of trees still to be listed comes to their nodes in pre-order, one tree after
the other. -/
theorem entries_eq (nodes : List Node) : entries nodes = nodes.flatMap preorder := by
  fun_induction entries nodes with
  | case1 => rfl
  | case2 left right o rest ih => simp [ih, preorder]
  | case3 x o rest ih => simp [ih, preorder]
  | case4 x rest ih => simp [ih, preorder]
  | case5 leaf rest ih => simp [ih, preorder]

theorem signature_eq (n : Node) : n.signature = n.preorder := by
  rw [signature, entries_eq, List.flatMap_singleton]

variable {R : Float → Float → Prop}

theorem Alike.forall₂_preorder {a b : Node} {s t : List Entry} (h : a.Alike R b)
    (hrest : List.Forall₂ (Entry.Alike R) s t) :
    List.Forall₂ (Entry.Alike R) (a.preorder ++ s) (b.preorder ++ t) := by
  induction h generalizing s t with
  | value hxy => exact .cons (.value hxy) hrest
  | unary o hxy => exact .cons (.unary o hxy) hrest
  | foreign leaf => exact .cons (.foreign leaf) hrest
  | binary o _ _ ihleft ihright =>
      rw [preorder, preorder, List.cons_append, List.cons_append, List.append_assoc,
        List.append_assoc]
      exact .cons (.binary o) (ihleft (ihright hrest))

/-- A list of nodes says where the tree that it begins with ends: whatever is behind, two
lists that are alike begin with trees that are alike and go on alike. -/
theorem alike_of_forall₂_preorder {a b : Node} {s t : List Entry}
    (h : List.Forall₂ (Entry.Alike R) (a.preorder ++ s) (b.preorder ++ t)) :
    a.Alike R b ∧ List.Forall₂ (Entry.Alike R) s t := by
  induction a generalizing b s t with
  | value x =>
      cases b with
      | value y =>
          obtain ⟨⟨hxy⟩, hrest⟩ := List.forall₂_cons.mp h
          exact ⟨.value hxy, hrest⟩
      | _ => cases (List.forall₂_cons.mp h).1
  | unary x o =>
      cases b with
      | unary y p =>
          obtain ⟨hhead, hrest⟩ := List.forall₂_cons.mp h
          cases hhead with
          | unary _ hxy => exact ⟨.unary o hxy, hrest⟩
      | _ => cases (List.forall₂_cons.mp h).1
  | foreign leaf =>
      cases b with
      | foreign leaf' =>
          obtain ⟨⟨⟩, hrest⟩ := List.forall₂_cons.mp h
          exact ⟨.foreign leaf, hrest⟩
      | _ => cases (List.forall₂_cons.mp h).1
  | binary left right o ihleft ihright =>
      cases b with
      | binary left' right' o' =>
          -- the right operand is part of what is behind the left one
          simp only [preorder, List.cons_append, List.append_assoc] at h
          obtain ⟨⟨⟩, hrest⟩ := List.forall₂_cons.mp h
          obtain ⟨hleft, hbehind⟩ := ihleft hrest
          obtain ⟨hright, hs⟩ := ihright hbehind
          exact ⟨.binary o hleft hright, hs⟩
      | _ => cases (List.forall₂_cons.mp h).1

theorem forall₂_preorder_iff {a b : Node} :
    List.Forall₂ (Entry.Alike R) a.preorder b.preorder ↔ a.Alike R b := by
  rw [← List.append_nil a.preorder, ← List.append_nil b.preorder]
  exact ⟨fun h => (alike_of_forall₂_preorder h).1, fun h => h.forall₂_preorder .nil⟩

/-- Comparing signatures is comparing trees. -/
theorem equal_iff {a b : Node} : a.equal b = true ↔ a.Alike Equal b := by
  rw [equal, signature_eq, signature_eq, Entry.list_beq_iff, forall₂_preorder_iff]

/-- No two trees have one signature. -/
theorem signature_injective : Function.Injective signature := by
  intro a b h
  rw [signature_eq, signature_eq] at h
  have hself : List.Forall₂ (Entry.Alike Eq) a.preorder a.preorder :=
    forall₂_preorder_iff.mpr (alike_eq_iff.mpr rfl)
  nth_rewrite 2 [h] at hself
  exact alike_eq_iff.mp (forall₂_preorder_iff.mp hself)

/-- All leaves and operands are numbers, if not finite ones. -/
def Numeric (n : Node) : Prop :=
  ∀ x ∈ n.numbers, x.isNaN = false

/-- The signature, which is listed with a stack, lists the nodes in pre-order. Two trees are
equal if they are alike, with equal numbers; binary trees are, if their operands and operators
are. On trees of numbers this is an equivalence, and no two trees have one signature. -/
theorem equal_structural :
    (∀ n : Node, n.signature = n.preorder) ∧
    (∀ a b : Node, a.equal b = true ↔ a.Alike Equal b) ∧
    (∀ (left right left' right' : Node) (o o' : Option Operator),
      (binary left right o).equal (.binary left' right' o') = true ↔
        left.equal left' = true ∧ right.equal right' = true ∧ o = o') ∧
    Equivalence (fun a b : { n : Node // n.Numeric } => a.val.equal b.val = true) ∧
    Function.Injective signature := by
  refine ⟨signature_eq, fun a b => equal_iff, ?_, ?_, signature_injective⟩
  · intro left right left' right' o o'
    simp only [equal_iff, alike_binary_iff]
  · simp only [equal_iff]
    exact {
      refl := fun a => .refl fun x hx => Equal.refl (a.property x hx)
      symm := fun h => h.symm Equal.symm
      trans := fun h h' => h.trans Equal.trans h' }

end Node

end Reckoner
