import Reckoner.Arithmetic

/-!
# Grouping (which tree a row of operands and operators stands for)

Written without parentheses, an expression is a row of operands with operators between
them. Operators bind with a rank; a tree is `Grouped` if on the left of every operator
stands nothing looser than it and on its right nothing but what is tighter, so that
operators of one rank group to the left.

* `Chain.tree` builds a tree out of a row, one operator after the other: `attach` lets
  an operator take as its left operand the largest subtree at the right edge that holds
  nothing looser.
* `Chain.grouped_tree`, `Chain.reading_tree`: the tree is grouped and reads, from left
  to right, as the row.
* `Grouped.tree_chain`: a grouped tree is the tree of its own row.
* `Grouped.eq_of_reading_append`: hence symbols that are read off a grouped tree determine
  it, and where it ends.
-/

namespace Reckoner

/-- How tightly an operator binds; the identity binds nothing. -/
def Operator.rank : Operator → Nat
  | .identity => 0
  | .add | .subtract => 1
  | .multiply | .divide => 2
  | .exponentiate => 3

theorem Operator.rank_lt (o : Operator) : o.rank < 4 := by
  cases o <;> decide

theorem Operator.rank_pos {o : Operator} (h : o.isBinary = true) : 0 < o.rank := by
  cases o <;> first | decide | cases h

/-- What is read off a tree from left to right. -/
inductive Symbol where
  | number (x : Float)
  | operator (o : Operator)
  deriving DecidableEq, Repr

namespace Node

/-! ## Readings and grouped trees -/

/-- A tree read from left to right: numbers, and the operators before and between
them. -/
def reading : Node → List Symbol
  | .value x => [.number x]
  | .unary x o => o.toList.map .operator ++ [.number x]
  | .binary left right o => left.reading ++ o.toList.map .operator ++ right.reading
  | .foreign _ => []

/-- An operand is a number or a number under a minus sign. -/
inductive IsOperand : Node → Prop
  | value (x : Float) : IsOperand (.value x)
  | negated (x : Float) : IsOperand (.unary x (some .subtract))

/-- How tightly a tree holds together: a binary tree by its topmost operator, an operand
more tightly than by any. -/
def rank : Node → Nat
  | .binary _ _ (some o) => o.rank
  | _ => 4

/-- Operands under binary operators, with nothing looser on the left of an operator and
only what is tighter on its right. -/
inductive Grouped : Node → Prop
  | operand {n : Node} : n.IsOperand → Grouped n
  | binary {left right : Node} {o : Operator} : o.isBinary = true → Grouped left →
      Grouped right → o.rank ≤ left.rank → o.rank < right.rank →
      Grouped (.binary left right (some o))

theorem IsOperand.rank_eq {n : Node} (h : n.IsOperand) : n.rank = 4 := by
  cases h <;> rfl

/-! ## Writing an operator and an operand behind a tree -/

/-- The tree with an operator and an operand written behind it. -/
def attach (n : Node) (o : Operator) (x : Node) : Node :=
  match n with
  | .binary left right (some p) =>
    if p.rank < o.rank then .binary left (right.attach o x) (some p)
    else .binary (.binary left right (some p)) x (some o)
  | n => .binary n x (some o)

/-- Behind a tree that holds together tightly enough, the whole tree is the left
operand. -/
theorem attach_of_le {n : Node} {o : Operator} (h : o.rank ≤ n.rank) (x : Node) :
    n.attach o x = .binary n x (some o) := by
  unfold attach
  split
  · rename_i left right p
    have hle : o.rank ≤ p.rank := h
    rw [if_neg (by omega)]
  · rfl

/-- Behind a looser operator, the operand on its right is what goes on. -/
theorem attach_of_lt {left right : Node} {p o : Operator} (h : p.rank < o.rank) (x : Node) :
    (Node.binary left right (some p)).attach o x =
      .binary left (right.attach o x) (some p) := by
  rw [attach, if_pos h]

theorem rank_attach (n : Node) (o : Operator) (x : Node) :
    (n.attach o x).rank = min n.rank o.rank := by
  by_cases h : o.rank ≤ n.rank
  · rw [attach_of_le h]
    exact (Nat.min_eq_right h).symm
  · cases n with
    | binary left right p =>
        cases p with
        | some p =>
            have hlt : p.rank < o.rank := Nat.lt_of_not_le h
            rw [attach_of_lt hlt]
            exact (Nat.min_eq_left (Nat.le_of_lt hlt)).symm
        | none => exact absurd (Nat.le_of_lt o.rank_lt) h
    | _ => exact absurd (Nat.le_of_lt o.rank_lt) h

/-- Attaching keeps what is read and adds to its end. -/
theorem reading_attach (n : Node) (o : Operator) (x : Node) :
    (n.attach o x).reading = n.reading ++ .operator o :: x.reading := by
  fun_induction attach n o x with
  | case1 left right p hlt ih =>
      show left.reading ++ [.operator p] ++ (right.attach o x).reading = _
      rw [ih]
      show _ = left.reading ++ [.operator p] ++ right.reading ++ .operator o :: x.reading
      rw [List.append_assoc, List.append_assoc, List.append_assoc]
  | case2 left right p hge =>
      show _ ++ [Symbol.operator o] ++ x.reading = _
      rw [List.append_assoc]
      rfl
  | case3 n hn =>
      show n.reading ++ [Symbol.operator o] ++ x.reading = _
      rw [List.append_assoc]
      rfl

theorem Grouped.attach {n : Node} (hn : n.Grouped) {o : Operator} (ho : o.isBinary = true)
    {x : Node} (hx : x.IsOperand) : (n.attach o x).Grouped := by
  have hx4 := hx.rank_eq
  have ho4 := o.rank_lt
  induction hn with
  | operand hop =>
      rw [attach_of_le (by rw [hop.rank_eq]; omega)]
      exact .binary ho (.operand hop) (.operand hx) (by rw [hop.rank_eq]; omega) (by omega)
  | @binary left right p hp hleft hright hle hlt _ ih =>
      by_cases h : p.rank < o.rank
      · -- the right operand grows, and stays tighter than the operator before it
        rw [attach_of_lt h]
        exact .binary hp hleft ih hle (by rw [rank_attach]; omega)
      · -- the whole tree becomes the left operand
        have hge : o.rank ≤ (Node.binary left right (some p)).rank := Nat.le_of_not_lt h
        rw [attach_of_le hge]
        exact .binary ho (.binary hp hleft hright hle hlt) (.operand hx) hge (by omega)

end Node

/-! ## Rows -/

/-- A row of operands with operators between them. -/
structure Chain where
  first : Node
  /-- Every operator with the operand behind it. -/
  links : List (Operator × Node)

namespace Chain

/-- The tree of some links behind a tree. -/
def extend (n : Node) (links : List (Operator × Node)) : Node :=
  links.foldl (fun tree link => tree.attach link.1 link.2) n

/-- The tree that a row stands for. -/
def tree (c : Chain) : Node :=
  extend c.first c.links

/-- What is read off some links from left to right. -/
def linksReading (links : List (Operator × Node)) : List Symbol :=
  links.flatMap fun link => .operator link.1 :: link.2.reading

/-- What is read off a row from left to right. -/
def reading (c : Chain) : List Symbol :=
  c.first.reading ++ linksReading c.links

/-- A row of proper operands and binary operators. -/
structure Plain (c : Chain) : Prop where
  first : c.first.IsOperand
  links : ∀ link ∈ c.links, link.1.isBinary = true ∧ link.2.IsOperand

theorem extend_append (n : Node) (links more : List (Operator × Node)) :
    extend n (links ++ more) = extend (extend n links) more :=
  List.foldl_append

theorem reading_extend (n : Node) (links : List (Operator × Node)) :
    (extend n links).reading = n.reading ++ linksReading links := by
  induction links generalizing n with
  | nil => exact (List.append_nil _).symm
  | cons link links ih =>
      show (extend (n.attach link.1 link.2) links).reading = _
      rw [ih, Node.reading_attach, List.append_assoc]
      rfl

theorem reading_tree (c : Chain) : c.tree.reading = c.reading :=
  reading_extend c.first c.links

theorem grouped_extend {n : Node} (hn : n.Grouped) {links : List (Operator × Node)}
    (hlinks : ∀ link ∈ links, link.1.isBinary = true ∧ link.2.IsOperand) :
    (extend n links).Grouped := by
  induction links generalizing n with
  | nil => exact hn
  | cons link links ih =>
      obtain ⟨ho, hx⟩ := hlinks link List.mem_cons_self
      exact ih (hn.attach ho hx) fun l hl => hlinks l (List.mem_cons_of_mem _ hl)

theorem Plain.grouped_tree {c : Chain} (h : c.Plain) : c.tree.Grouped :=
  grouped_extend (.operand h.first) h.links

/-- Links that are tighter than the operator before them all go to its right operand. -/
theorem extend_binary (left right : Node) (o : Operator) {links : List (Operator × Node)}
    (h : ∀ link ∈ links, o.rank < link.1.rank) :
    extend (.binary left right (some o)) links = .binary left (extend right links) (some o) := by
  induction links generalizing right with
  | nil => rfl
  | cons link links ih =>
      show extend ((Node.binary left right (some o)).attach link.1 link.2) links = _
      rw [Node.attach_of_lt (h link List.mem_cons_self),
        ih _ fun l hl => h l (List.mem_cons_of_mem _ hl)]
      rfl

end Chain

/-! ## The row of a tree -/

namespace Node

/-- The row that a tree is written as. -/
def chain : Node → Chain
  | .binary left right (some o) =>
    ⟨left.chain.first, left.chain.links ++ (o, right.chain.first) :: right.chain.links⟩
  | n => ⟨n, []⟩

theorem IsOperand.chain_eq {n : Node} (h : n.IsOperand) : n.chain = ⟨n, []⟩ := by
  cases h <;> rfl

theorem Grouped.plain_chain {n : Node} (h : n.Grouped) : n.chain.Plain := by
  induction h with
  | operand hop =>
      rw [hop.chain_eq]
      exact ⟨hop, by simp⟩
  | binary ho _ _ _ _ ihleft ihright =>
      refine ⟨ihleft.first, fun link hlink => ?_⟩
      rcases List.mem_append.mp hlink with hmem | hmem
      · exact ihleft.links link hmem
      · rcases List.mem_cons.mp hmem with rfl | hmem
        · exact ⟨ho, ihright.first⟩
        · exact ihright.links link hmem

/-- No operator in a grouped tree is looser than the topmost one. -/
theorem Grouped.rank_le_links {n : Node} (h : n.Grouped) :
    ∀ link ∈ n.chain.links, n.rank ≤ link.1.rank := by
  induction h with
  | operand hop =>
      rw [hop.chain_eq]
      simp
  | @binary left right o _ _ _ hle hlt ihleft ihright =>
      intro link hlink
      show o.rank ≤ link.1.rank
      rcases List.mem_append.mp hlink with hmem | hmem
      · exact Nat.le_trans hle (ihleft link hmem)
      · rcases List.mem_cons.mp hmem with rfl | hmem
        · exact Nat.le_refl _
        · exact Nat.le_trans (Nat.le_of_lt hlt) (ihright link hmem)

/-- A grouped tree is the tree of its own row. -/
theorem Grouped.tree_chain {n : Node} (h : n.Grouped) : n.chain.tree = n := by
  induction h with
  | operand hop =>
      rw [hop.chain_eq]
      rfl
  | @binary left right o _ _ hright hle hlt ihleft ihright =>
      -- so the links of the right operand find their way back into it
      have htighter : ∀ link ∈ right.chain.links, o.rank < link.1.rank :=
        fun link hlink => Nat.lt_of_lt_of_le hlt (hright.rank_le_links link hlink)
      calc (Node.binary left right (some o)).chain.tree
          = Chain.extend (left.chain.tree.attach o right.chain.first) right.chain.links :=
            Chain.extend_append _ _ _
        _ = Chain.extend (.binary left right.chain.first (some o)) right.chain.links := by
            rw [ihleft, attach_of_le hle]
        _ = .binary left right.chain.tree (some o) := Chain.extend_binary _ _ _ htighter
        _ = .binary left right (some o) := by rw [ihright]

theorem Grouped.reading_chain {n : Node} (h : n.Grouped) : n.chain.reading = n.reading := by
  rw [← Chain.reading_tree, h.tree_chain]

end Node

/-! ## A reading determines the tree -/

/-- Two operands with something behind them read the same only if they are the same. -/
theorem Node.IsOperand.reading_append_inj {a b : Node} (ha : a.IsOperand) (hb : b.IsOperand)
    {s t : List Symbol} (h : a.reading ++ s = b.reading ++ t) : a = b ∧ s = t := by
  cases ha <;> cases hb <;> simp_all [Node.reading]

/-- Some symbols do not begin with an operator. -/
def Symbol.Ceasing (symbols : List Symbol) : Prop :=
  ∀ o rest, symbols ≠ .operator o :: rest

theorem Symbol.ceasing_nil : Symbol.Ceasing [] := by
  intro o rest h
  cases h

theorem Symbol.ceasing_number (x : Float) (rest : List Symbol) :
    Symbol.Ceasing (.number x :: rest) := by
  intro o rest' h
  cases h

/-- Links are read off for as long as operators come next. -/
theorem Chain.linksReading_append_inj {links more : List (Operator × Node)}
    (hlinks : ∀ link ∈ links, link.2.IsOperand) (hmore : ∀ link ∈ more, link.2.IsOperand)
    {s t : List Symbol} (hs : Symbol.Ceasing s) (ht : Symbol.Ceasing t)
    (h : linksReading links ++ s = linksReading more ++ t) : links = more ∧ s = t := by
  induction links generalizing more with
  | nil =>
      cases more with
      | nil => exact ⟨rfl, h⟩
      | cons link more =>
          have hcons : s = .operator link.1 :: (link.2.reading ++ linksReading more ++ t) := h
          exact absurd hcons (hs _ _)
  | cons link links ih =>
      cases more with
      | nil =>
          have hcons : .operator link.1 :: (link.2.reading ++ linksReading links ++ s) = t := h
          exact absurd hcons.symm (ht _ _)
      | cons other more =>
          have hcons : Symbol.operator link.1 :: (link.2.reading ++ linksReading links ++ s) =
              .operator other.1 :: (other.2.reading ++ linksReading more ++ t) := h
          obtain ⟨ho, hrest⟩ := List.cons.inj hcons
          rw [List.append_assoc, List.append_assoc] at hrest
          obtain ⟨hx, hrest⟩ := (hlinks link List.mem_cons_self).reading_append_inj
            (hmore other List.mem_cons_self) hrest
          obtain ⟨hlinks, htails⟩ := ih (fun l hl => hlinks l (List.mem_cons_of_mem _ hl))
            (fun l hl => hmore l (List.mem_cons_of_mem _ hl)) hrest
          rw [hlinks, Prod.ext (Symbol.operator.inj ho) hx]
          exact ⟨rfl, htails⟩

/-- Where two grouped trees are read off the same symbols and no operator comes next,
the trees are the same. -/
theorem Node.Grouped.eq_of_reading_append {a b : Node} (ha : a.Grouped) (hb : b.Grouped)
    {s t : List Symbol} (hs : Symbol.Ceasing s) (ht : Symbol.Ceasing t)
    (h : a.reading ++ s = b.reading ++ t) : a = b ∧ s = t := by
  rw [← ha.reading_chain, ← hb.reading_chain] at h
  have hchain : a.chain.first.reading ++ (Chain.linksReading a.chain.links ++ s) =
      b.chain.first.reading ++ (Chain.linksReading b.chain.links ++ t) := by
    rw [← List.append_assoc, ← List.append_assoc]
    exact h
  obtain ⟨hfirst, hlinks⟩ :=
    ha.plain_chain.first.reading_append_inj hb.plain_chain.first hchain
  obtain ⟨hlinks, htails⟩ := Chain.linksReading_append_inj
    (fun l hl => (ha.plain_chain.links l hl).2) (fun l hl => (hb.plain_chain.links l hl).2)
    hs ht hlinks
  refine ⟨?_, htails⟩
  calc a = Chain.extend a.chain.first a.chain.links := ha.tree_chain.symm
    _ = Chain.extend b.chain.first b.chain.links := by rw [hfirst, hlinks]
    _ = b := hb.tree_chain

end Reckoner
