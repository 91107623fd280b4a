import Reckoner.Expr.Printer
import Reckoner.Proofs.NestedLevels
import Reckoner.Proofs.NumberTexts
import Reckoner.Proofs.Shapes
import Reckoner.Proofs.TreeWalk

/-!
# Printed forms (texts that tell trees apart)

What is printed of a tree is said by recursion on it (`Node.render`); printing walks through
the tree with two stacks and comes to the same, whatever else the stacks hold.

A printed form is a nest of texts without marks of their lengths. That one text comes from one
tree is therefore shown with anything behind the text: if two such texts are the same, the
trees they begin with are, and so is what is behind them. The constructor form names every node.
The infix form has the same parentheses around a number under a minus sign and around two
operands, which only the blank behind the left operand tells apart; it is unambiguous on trees
with the operators that the parser gives them.

* `Node.walk_render`, `Node.print_eq`: printing with two stacks is printing by recursion.
* `Node.Own.alike_of_render`: constructor forms of trees that hold expressions only.
* `Node.Grouped.eq_of_render`: infix forms of grouped trees.
* `Tree.print_unambiguous`: both printed forms, of nodes and of whole trees.
-/

namespace Reckoner

namespace Node

/-! ## Printing by recursion -/

/-- A node printed by recursion on it. -/
def render (form : Form) : Node → Text
  | .value x => form.value x
  | .unary x o => form.unary x o
  | .binary left right o => form.binary (left.render form) (right.render form) o
  | .foreign leaf => leaf.describe

variable {form : Form}

theorem fold_printer (form : Form) (n : Node) : form.printer.fold n = .ok (n.render form) := by
  induction n with
  | value x => rfl
  | unary x o => rfl
  | foreign leaf => rfl
  | binary left right o ihleft ihright =>
      rw [Visitor.fold, ihleft, ihright]
      rfl

/-- Printing a subtree puts its text on the texts and leaves the other tasks as they are. -/
theorem walk_render (form : Form) (n : Node) (tasks : List Task) (texts : List Text) :
    form.printer.walk (.visit n :: tasks) texts =
      form.printer.walk tasks (n.render form :: texts) := by
  rw [Visitor.walk_visit, fold_printer]
  rfl

/-- The stacks never run out, and the text is the one that recursion gives. -/
theorem print_eq (form : Form) (n : Node) : n.print form = .ok (n.render form) := by
  rw [print, Visitor.visit_eq_fold, fold_printer]

end Node

/-! ## Pieces and what ends them -/

/-- A piece of a printed form in which nothing ends. -/
def Text.Unbroken (s : Text) : Prop :=
  ' ' ∉ s ∧ ')' ∉ s

/-- What can be behind an unbroken piece: nothing, a blank or a closing parenthesis. -/
def Text.Ending (s : Text) : Prop :=
  ∀ c ∈ s.head?, c = ' ' ∨ c = ')'

theorem Text.ending_nil : Text.Ending [] := by
  rintro c ⟨⟩

theorem Text.ending_blank (s : Text) : Text.Ending (' ' :: s) := by
  rintro c ⟨⟩
  exact .inl rfl

theorem Text.ending_paren (s : Text) : Text.Ending (')' :: s) := by
  rintro c ⟨⟩
  exact .inr rfl

theorem Text.Unbroken.ne_ending {c : Char} {x y s : Text} (h : Text.Unbroken (c :: x))
    (hs : s.Ending) : c :: y ≠ s := by
  rintro rfl
  obtain rfl | rfl := hs c rfl
  · exact h.1 List.mem_cons_self
  · exact h.2 List.mem_cons_self

theorem Text.Unbroken.tail {c : Char} {s : Text} (h : Text.Unbroken (c :: s)) : s.Unbroken :=
  ⟨fun hc => h.1 (List.mem_cons_of_mem c hc), fun hc => h.2 (List.mem_cons_of_mem c hc)⟩

/-- An unbroken piece reaches to the first character that ends it. -/
theorem Text.Unbroken.eq_of_append {x y s t : Text} (hx : x.Unbroken) (hy : y.Unbroken)
    (hs : s.Ending) (ht : t.Ending) (h : x ++ s = y ++ t) : x = y ∧ s = t := by
  induction x generalizing y with
  | nil =>
      cases y with
      | nil => exact ⟨rfl, h⟩
      | cons d y => exact absurd h.symm (hy.ne_ending hs)
  | cons c x ih =>
      cases y with
      | nil => exact absurd h (hx.ne_ending ht)
      | cons d y =>
          obtain ⟨rfl, hrest⟩ := List.cons.inj h
          obtain ⟨rfl, hst⟩ := ih hx.tail hy.tail hrest
          exact ⟨rfl, hst⟩

theorem Text.unbroken_ofFloat (x : Float) : (Text.ofFloat x).Unbroken :=
  ⟨Text.notMem_ofFloat x (by decide) (by decide), Text.notMem_ofFloat x (by decide) (by decide)⟩

theorem Text.ofFloat_paren_inj {x y : Float} {s t : Text}
    (h : Text.ofFloat x ++ ')' :: s = Text.ofFloat y ++ ')' :: t) :
    Text.ofFloat x = Text.ofFloat y ∧ s = t := by
  obtain ⟨hxy, hrest⟩ := (Text.unbroken_ofFloat x).eq_of_append (Text.unbroken_ofFloat y)
    (Text.ending_paren s) (Text.ending_paren t) h
  exact ⟨hxy, (List.cons.inj hrest).2⟩

theorem Operator.unbroken_describe (o : Option Operator) : (describe o).Unbroken := by
  unfold Text.Unbroken
  cases o with
  | none => decide
  | some o => cases o <;> decide

theorem Operator.unbroken_symbol (o : Operator) : o.symbol.Unbroken := by
  unfold Text.Unbroken
  cases o <;> decide

theorem Operator.describe_injective : Function.Injective describe := by
  intro o p h
  cases o with
  | none =>
      cases p with
      | none => rfl
      | some p => cases p <;> exact absurd h (by decide)
  | some o =>
      cases p with
      | none => cases o <;> exact absurd h (by decide)
      | some p => cases o <;> cases p <;> first | rfl | exact absurd h (by decide)

theorem Operator.describe_paren_inj {o p : Option Operator} {s t : Text}
    (h : describe o ++ ')' :: s = describe p ++ ')' :: t) : o = p ∧ s = t := by
  obtain ⟨hop, hrest⟩ := (unbroken_describe o).eq_of_append (unbroken_describe p)
    (Text.ending_paren s) (Text.ending_paren t) h
  exact ⟨describe_injective hop, (List.cons.inj hrest).2⟩

theorem Operator.symbol_injective : Function.Injective symbol := by
  intro o p h
  cases o <;> cases p <;> first | rfl | exact absurd h (by decide)

namespace Node

variable {a b : Node} {s t : Text}

/-! ## Constructor forms -/

/-- Nothing but expressions. -/
inductive Own : Node → Prop
  | value (x : Float) : Own (.value x)
  | unary (x : Float) (o : Option Operator) : Own (.unary x o)
  | binary {left right : Node} (o : Option Operator) : Own left → Own right →
      Own (.binary left right o)

/-- Numbers of one text. -/
def SameText (x y : Float) : Prop :=
  Text.ofFloat x = Text.ofFloat y

theorem constructors_value (x : Float) (s : Text) :
    (value x).render .constructors ++ s =
      ("ValueExpr(" : Text) ++ (Text.ofFloat x ++ ')' :: s) := by
  simp [render, Form.value, Text.joined]

theorem constructors_unary (x : Float) (o : Option Operator) (s : Text) :
    (unary x o).render .constructors ++ s =
      ("UnaryExpr(ValueExpr(" : Text) ++
        (Text.ofFloat x ++ ')' :: ((", " : Text) ++ (Operator.describe o ++ ')' :: s))) := by
  simp [render, Form.unary, Form.value, Text.joined]

theorem constructors_binary (left right : Node) (o : Option Operator) (s : Text) :
    (binary left right o).render .constructors ++ s =
      ("BinaryExpr(" : Text) ++ (left.render .constructors ++ ((", " : Text) ++
        (right.render .constructors ++
          ((", " : Text) ++ (Operator.describe o ++ ')' :: s))))) := by
  simp [render, Form.binary, Text.joined]

/-- The first letter of the name of a node's constructor. -/
def initial : Node → Char
  | .value _ => 'V'
  | .unary _ _ => 'U'
  | .binary _ _ _ => 'B'
  | .foreign _ => 'N'

theorem Own.head?_render (ha : a.Own) (s : Text) :
    (a.render .constructors ++ s).head? = some a.initial := by
  cases ha with
  | value x =>
      rw [constructors_value]
      rfl
  | unary x o =>
      rw [constructors_unary]
      rfl
  | binary o _ _ =>
      rw [constructors_binary]
      rfl

theorem Own.initial_eq (ha : a.Own) (hb : b.Own)
    (h : a.render .constructors ++ s = b.render .constructors ++ t) : a.initial = b.initial := by
  have hhead := congrArg List.head? h
  rw [ha.head?_render, hb.head?_render] at hhead
  exact Option.some.inj hhead

/-- Constructor forms with anything behind: the trees are alike, and what is behind them is
the same. -/
theorem Own.alike_of_render (ha : a.Own) (hb : b.Own)
    (h : a.render .constructors ++ s = b.render .constructors ++ t) :
    a.Alike SameText b ∧ s = t := by
  induction ha generalizing b s t with
  | value x =>
      have hinitial := (Own.value x).initial_eq hb h
      cases hb with
      | value y =>
          rw [constructors_value, constructors_value] at h
          obtain ⟨hxy, hst⟩ := Text.ofFloat_paren_inj (List.append_cancel_left h)
          exact ⟨.value hxy, hst⟩
      | unary y p => simp [initial] at hinitial
      | binary p _ _ => simp [initial] at hinitial
  | unary x o =>
      have hinitial := (Own.unary x o).initial_eq hb h
      cases hb with
      | value y => simp [initial] at hinitial
      | unary y p =>
          rw [constructors_unary, constructors_unary] at h
          obtain ⟨hxy, hbehind⟩ := Text.ofFloat_paren_inj (List.append_cancel_left h)
          obtain ⟨rfl, hst⟩ := Operator.describe_paren_inj (List.append_cancel_left hbehind)
          exact ⟨.unary o hxy, hst⟩
      | binary p _ _ => simp [initial] at hinitial
  | binary o hleft hright ihleft ihright =>
      have hinitial := (Own.binary o hleft hright).initial_eq hb h
      cases hb with
      | value y => simp [initial] at hinitial
      | unary y p => simp [initial] at hinitial
      | binary p hleft' hright' =>
          -- the right operand is part of what is behind the left one
          rw [constructors_binary, constructors_binary] at h
          obtain ⟨hl, hbehind⟩ := ihleft hleft' (List.append_cancel_left h)
          obtain ⟨hr, hbehind⟩ := ihright hright' (List.append_cancel_left hbehind)
          obtain ⟨rfl, hst⟩ := Operator.describe_paren_inj (List.append_cancel_left hbehind)
          exact ⟨.binary o hl hr, hst⟩

/-! ## Infix forms -/

theorem infixed_value (x : Float) : (value x).render .infixed = Text.ofFloat x :=
  rfl

theorem infixed_negated (x : Float) (s : Text) :
    (unary x (some .subtract)).render .infixed ++ s =
      '(' :: (('-' :: Text.ofFloat x) ++ ')' :: s) := by
  simp [render, Form.unary, Text.joined, Operator.symbolOf, Operator.symbol]

theorem infixed_binary (left right : Node) (o : Operator) (s : Text) :
    (binary left right (some o)).render .infixed ++ s =
      '(' :: (left.render .infixed ++ ' ' ::
        (o.symbol ++ ' ' :: (right.render .infixed ++ ')' :: s))) := by
  simp [render, Form.binary, Text.joined, Operator.symbolOf]

/-- A number does not begin like an operator and its operands. -/
theorem infixed_value_ne (x : Float) : (value x).render .infixed ++ s ≠ '(' :: t := by
  have hparen : '(' ∉ Text.ofFloat x := Text.notMem_ofFloat x (by decide) (by decide)
  obtain ⟨c, text, htext⟩ := List.exists_cons_of_ne_nil (Text.ofFloat_ne_nil x)
  rw [infixed_value, htext]
  intro h
  obtain ⟨rfl, -⟩ := List.cons.inj h
  exact hparen (htext ▸ List.mem_cons_self)

/-- A number under a minus sign is closed where a left operand is followed by a blank. -/
theorem Grouped.negated_ne (ha : a.Grouped) (x : Float) :
    ('-' :: Text.ofFloat x) ++ ')' :: s ≠ a.render .infixed ++ ' ' :: t := by
  intro h
  cases ha with
  | operand ha =>
      cases ha with
      | value y =>
          obtain ⟨hblank, hparen⟩ := Text.unbroken_ofFloat x
          have hminus : Text.Unbroken ('-' :: Text.ofFloat x) :=
            ⟨List.not_mem_cons_of_ne_of_not_mem (by decide) hblank,
              List.not_mem_cons_of_ne_of_not_mem (by decide) hparen⟩
          have hrest := (hminus.eq_of_append (Text.unbroken_ofFloat y) (Text.ending_paren s)
            (Text.ending_blank t) h).2
          cases hrest
      | negated y =>
          rw [infixed_negated] at h
          cases h
  | binary =>
      rw [infixed_binary] at h
      cases h

/-- Infix forms of grouped trees, each at its end: the trees are the same, and what is behind
them is. -/
theorem Grouped.eq_of_render (ha : a.Grouped) (hb : b.Grouped) (hs : s.Ending) (ht : t.Ending)
    (h : a.render .infixed ++ s = b.render .infixed ++ t) : a = b ∧ s = t := by
  induction ha generalizing b s t with
  | operand ha =>
      cases ha with
      | value x =>
          cases hb with
          | operand hb =>
              cases hb with
              | value y =>
                  obtain ⟨hxy, hst⟩ := (Text.unbroken_ofFloat x).eq_of_append
                    (Text.unbroken_ofFloat y) hs ht h
                  exact ⟨congrArg value (Text.ofFloat_injective hxy), hst⟩
              | negated y =>
                  rw [infixed_negated] at h
                  exact absurd h (infixed_value_ne x)
          | binary =>
              rw [infixed_binary] at h
              exact absurd h (infixed_value_ne x)
      | negated x =>
          rw [infixed_negated] at h
          cases hb with
          | operand hb =>
              cases hb with
              | value y => exact absurd h.symm (infixed_value_ne y)
              | negated y =>
                  rw [infixed_negated] at h
                  obtain ⟨hxy, hst⟩ := Text.ofFloat_paren_inj
                    (List.cons.inj (List.cons.inj h).2).2
                  exact ⟨congrArg (unary · _) (Text.ofFloat_injective hxy), hst⟩
          | binary _ hleft =>
              rw [infixed_binary] at h
              exact absurd (List.cons.inj h).2 (hleft.negated_ne x)
  | @binary left right o _ hleft _ _ _ ihleft ihright =>
      rw [infixed_binary] at h
      cases hb with
      | operand hb =>
          cases hb with
          | value y => exact absurd h.symm (infixed_value_ne y)
          | negated y =>
              rw [infixed_negated] at h
              exact absurd (List.cons.inj h).2.symm (hleft.negated_ne y)
      | @binary left' right' p _ hleft' hright' =>
          rw [infixed_binary] at h
          obtain ⟨rfl, hbehind⟩ := ihleft hleft' (Text.ending_blank _) (Text.ending_blank _)
            (List.cons.inj h).2
          obtain ⟨hop, hlast⟩ := (Operator.unbroken_symbol o).eq_of_append
            (Operator.unbroken_symbol p) (Text.ending_blank _) (Text.ending_blank _)
            (List.cons.inj hbehind).2
          obtain rfl := Operator.symbol_injective hop
          obtain ⟨rfl, hrest⟩ := ihright hright' (Text.ending_paren s) (Text.ending_paren t)
            (List.cons.inj hlast).2
          exact ⟨rfl, (List.cons.inj hrest).2⟩

theorem Grouped.render_ne_nil (ha : a.Grouped) : a.render .infixed ≠ [] := by
  cases ha with
  | operand ha =>
      cases ha with
      | value x => exact Text.ofFloat_ne_nil x
      | negated x => exact List.cons_ne_nil _ _
  | binary => exact List.cons_ne_nil _ _

end Node

/-! ## Trees -/

namespace Tree

theorem infixed_none : print .infixed none = .ok [] :=
  rfl

theorem infixed_some (root : Node) : print .infixed (some root) = .ok (root.render .infixed) := by
  rw [print, Node.print_eq]
  rfl

theorem constructors_none :
    print .constructors none = .ok (("ExpressionTree(" : Text) ++ ("None)" : Text)) :=
  rfl

theorem constructors_some (root : Node) : print .constructors (some root) =
    .ok (("ExpressionTree(" : Text) ++ (root.render .constructors ++ [')'])) := by
  rw [print, Node.print_eq]
  exact congrArg Except.ok (by simp [Text.joined])

/-- Nothing but expressions, if anything. -/
def Own (tree : Tree) : Prop :=
  ∀ root ∈ tree, root.Own

variable {a b : Tree}

theorem constructors_some_ne {root : Node} (h : root.Own) :
    print .constructors (some root) ≠ print .constructors none := by
  rw [constructors_some, constructors_none]
  intro heq
  have hhead : (root.render .constructors ++ [')']).head? = some 'N' :=
    congrArg List.head? (List.append_cancel_left (Except.ok.inj heq))
  rw [h.head?_render, Option.some.injEq] at hhead
  cases h <;> simp [Node.initial] at hhead

theorem Own.alike_of_print (ha : a.Own) (hb : b.Own)
    (h : a.print .constructors = b.print .constructors) :
    Option.Rel (Node.Alike Node.SameText) a b := by
  cases a with
  | none =>
      cases b with
      | none => exact .none
      | some root => exact absurd h.symm (constructors_some_ne (hb root rfl))
  | some root =>
      cases b with
      | none => exact absurd h (constructors_some_ne (ha root rfl))
      | some root' =>
          rw [constructors_some, constructors_some] at h
          exact .some ((ha root rfl).alike_of_render (hb root' rfl)
            (List.append_cancel_left (Except.ok.inj h))).1

/-- Trees of operators grouped as they bind are the same if their infix forms are. -/
theorem eq_of_print (ha : ∀ root ∈ a, root.Grouped) (hb : ∀ root ∈ b, root.Grouped)
    (h : a.print .infixed = b.print .infixed) : a = b := by
  cases a with
  | none =>
      cases b with
      | none => rfl
      | some root =>
          rw [infixed_none, infixed_some] at h
          exact absurd (Except.ok.inj h).symm (hb root rfl).render_ne_nil
  | some root =>
      cases b with
      | none =>
          rw [infixed_none, infixed_some] at h
          exact absurd (Except.ok.inj h) (ha root rfl).render_ne_nil
      | some root' =>
          rw [infixed_some, infixed_some, ← List.append_nil (root.render _),
            ← List.append_nil (root'.render _)] at h
          exact congrArg some ((ha root rfl).eq_of_render (hb root' rfl) Text.ending_nil
            Text.ending_nil (Except.ok.inj h)).1

theorem grouped_of_parse {p : Parser} {source : Text}
    (h : ((Parser.parse source).run p).outcome = .ok a) : ∀ root ∈ a, root.Grouped := by
  rintro root rfl
  rw [Parser.outcome_parse] at h
  obtain ⟨rest, -, hsubtree, -⟩ := Scan.parse_eq_ok source h
  exact Scan.subtree_grouped source hsubtree

/-- Printing with two stacks is printing by recursion, whatever else the stacks hold, so they
never run out. Trees without foreign leaves of one constructor form are alike, with numbers
of one text; trees that have been parsed, of whatever sources, are the same tree if they have
one infix form. -/
theorem print_unambiguous :
    (∀ (form : Form) (n : Node), n.print form = .ok (n.render form)) ∧
    (∀ (form : Form) (n : Node) (tasks : List Task) (texts : List Text),
      form.printer.walk (.visit n :: tasks) texts =
        form.printer.walk tasks (n.render form :: texts)) ∧
    (∀ a b : Node, a.Own → b.Own → a.print .constructors = b.print .constructors →
      a.Alike Node.SameText b) ∧
    (∀ a b : Tree, a.Own → b.Own → a.print .constructors = b.print .constructors →
      Option.Rel (Node.Alike Node.SameText) a b) ∧
    (∀ (p p' : Parser) (source source' : Text) (a b : Tree),
      ((Parser.parse source).run p).outcome = .ok a →
      ((Parser.parse source').run p').outcome = .ok b →
      a.print .infixed = b.print .infixed → a = b) := by
  refine ⟨Node.print_eq, Node.walk_render, ?_, ?_, ?_⟩
  · intro a b ha hb h
    rw [Node.print_eq, Node.print_eq, Except.ok.injEq] at h
    exact (ha.alike_of_render (s := []) (t := []) hb (by rw [h])).1
  · intro a b ha hb
    exact ha.alike_of_print hb
  · intro p p' source source' a b ha hb
    exact eq_of_print (grouped_of_parse ha) (grouped_of_parse hb)

theorem print_unambiguous_spaced : ∃ a b : Tree,
    ((Parser.parse "1+2").run (.new false)).outcome = .ok a ∧
    ((Parser.parse " 1.0 + 2.").run (.new true)).outcome = .ok b ∧
    a.print .infixed = b.print .infixed ∧ a = b := by
  have hfirst : ((Parser.parse "1+2").run (.new false)).outcome =
      .ok (some (.binary (.value 1) (.value 2) (some .add))) := by decide +kernel
  have hsecond : ((Parser.parse " 1.0 + 2.").run (.new true)).outcome =
      .ok (some (.binary (.value 1) (.value 2) (some .add))) := by decide +kernel
  exact ⟨_, _, hfirst, hsecond, rfl, print_unambiguous.2.2.2.2 _ _ _ _ _ _ hfirst hsecond rfl⟩

end Tree

end Reckoner
