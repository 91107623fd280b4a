import Reckoner.Proofs.TreeWalk
import Reckoner.Proofs.Verdicts

/-!
# A calculator without trees (one pass with two stacks)

Making a tree of a source and walking through it comes to the same as calculating while
the tokens are read. The calculator stacks values and operators. Before it puts an
operator on its stack it applies those that bind as tightly or more tightly, the newest
first, and at the end it applies the rest.

What ties the two together is `enter`: when the calculator has passed over a tree, its
operators are those on the way from the root of the tree to its right edge, and its
values are those of their left operands and of the last operand.

* `enter_reduce`: applying all operators of a grouped tree gives the value of the tree.
* `enter_attach`: the calculator gets from a tree to the tree with an operator and an
  operand written behind it by applying, and then stacking both.
* `evaluateWith_eq_calculate`: the value of a parsed source is what the calculator makes
  of its tokens, with any kernel in any lawful monad.
-/

namespace Reckoner

/-- A calculator between two tokens. The newest come first in both stacks. -/
structure Calculator where
  /-- The operators that are still to be applied. -/
  operators : List Operator
  values : List Float
  deriving DecidableEq, Repr

/-- A binary operator applied to two numbers. -/
structure Call where
  operator : Operator
  left : Float
  right : Float
  deriving DecidableEq, Repr

namespace Calculator

/-- A calculator that has not seen any token. -/
def new : Calculator :=
  ⟨[], []⟩

/-- Stack a value. -/
def push (c : Calculator) (x : Float) : Calculator :=
  { c with values := x :: c.values }

/-- Stack an operator. -/
def hold (c : Calculator) (o : Operator) : Calculator :=
  { c with operators := o :: c.operators }

section

variable {m : Type → Type} [Monad m] [MonadExcept Fault m] (kernel : Kernel m)

/-- Apply stacked operators to stacked values, the newest first, until one binds less
tightly than `least`. -/
def reduce (least : Nat) : List Operator → List Float → m Calculator
  | [], values => pure ⟨[], values⟩
  | o :: operators, values =>
    if o.rank < least then pure ⟨o :: operators, values⟩
    else
      match values with
      | right :: left :: below => do
        let y ← kernel o left right
        reduce least operators (y :: below)
      | _ => throw .emptyStack

/-- Apply all stacked operators and take the value that is left. -/
def result (c : Calculator) : m Float := do
  match ← reduce kernel 0 c.operators c.values with
  | ⟨_, y :: _⟩ => pure y
  | _ => throw .emptyStack

/-- Pass over the tokens of `source` that are ahead. Where the input ends in place of an
operand, the operand is zero. -/
def run (source : Text) : Expectation → Calculator → List Token → m Float
  | _, c, [] => c.result kernel
  | .operand, c, t :: rest =>
    match t.kind with
    | .eof => (c.push 0).result kernel
    | .number => do
      let x ← settle (Scan.numeral source t)
      run source .operator (c.push x) rest
    | .minus => run source .magnitude c rest
    | _ => throw (.unexpectedToken t.start (t.text source))
  | .magnitude, c, t :: rest =>
    match t.kind with
    | .eof => (c.push (negate 0)).result kernel
    | .number => do
      let x ← settle (Scan.numeral source t)
      run source .operator (c.push (negate x)) rest
    | _ => throw (.unexpectedToken t.start (t.text source))
  | .operator, c, t :: rest =>
    match Operator.ofKind? t.kind with
    | some o => do
      let reduced ← reduce kernel o.rank c.operators c.values
      run source .operand (reduced.hold o) rest
    | none => c.result kernel

/-- What the calculator makes of a source. -/
def calculate (source : Text) : m Float :=
  run kernel source .operand .new (Token.significant source)

/-- The calculator behind a tree: left operands are evaluated, the operators on the way
to the right edge are stacked. -/
def enter (c : Calculator) : Node → m Calculator
  | .binary left right (some o) => do
    let a ← (evaluator kernel).fold left
    enter ((c.push a).hold o) right
  | n => do
    let a ← (evaluator kernel).fold n
    return c.push a

end

/-- A kernel that notes every call and then makes it. -/
def recording (kernel : Operator → Float → Float → Except Fault Float) :
    Kernel (ExceptT Fault (StateM (List Call))) := fun o left right => do
  modify fun calls => calls ++ [⟨o, left, right⟩]
  settle (kernel o left right)

/-! ## Trees on the stacks -/

section

variable {m : Type → Type} [Monad m] [MonadExcept Fault m] (kernel : Kernel m)

theorem enter_operand (c : Calculator) {n : Node} (h : n.IsOperand) :
    enter kernel c n = (do
      let a ← (evaluator kernel).fold n
      return c.push a) := by
  cases h <;> rfl

theorem fold_binary (left right : Node) {o : Operator} (ho : o.isBinary = true) :
    (evaluator kernel).fold (.binary left right (some o)) = (do
      let a ← (evaluator kernel).fold left
      let b ← (evaluator kernel).fold right
      kernel o a b) := by
  show (_ >>= fun a => _ >>= fun b => if o.isBinary = true then kernel o a b else _) = _
  simp only [ho, if_true]

theorem reduce_of_le {least : Nat} {o : Operator} (h : least ≤ o.rank)
    (operators : List Operator) (right left : Float) (below : List Float) :
    reduce kernel least (o :: operators) (right :: left :: below) = (do
      let y ← kernel o left right
      reduce kernel least operators (y :: below)) := by
  rw [reduce, if_neg (Nat.not_lt.mpr h)]

theorem reduce_of_lt {least : Nat} {operators : List Operator}
    (h : ∀ o ∈ operators.head?, o.rank < least) (values : List Float) :
    reduce kernel least operators values = pure ⟨operators, values⟩ := by
  cases operators with
  | nil => rfl
  | cons o operators => exact if_pos (h o rfl)

end

variable {m : Type → Type} [Monad m] [LawfulMonad m] [MonadExcept Fault m] (kernel : Kernel m)

/-- Applying the operators of a tree gives its value, and what was stacked before is
next. The induction goes down the right edge of the tree. -/
theorem enter_reduce {n : Node} (hn : n.Grouped) {least : Nat} (hleast : least ≤ n.rank)
    (c : Calculator) :
    (do
      let d ← enter kernel c n
      reduce kernel least d.operators d.values) = (do
      let y ← (evaluator kernel).fold n
      reduce kernel least c.operators (y :: c.values)) := by
  induction hn generalizing c with
  | operand hop =>
      rw [enter_operand kernel c hop, bind_assoc]
      exact bind_congr fun a => pure_bind _ _
  | @binary left right o ho _ _ hle hlt _ ihright =>
      -- the operators of the right operand are applied first, then the topmost one
      have hright : least ≤ right.rank := Nat.le_trans hleast (Nat.le_of_lt hlt)
      rw [enter, fold_binary kernel left right ho, bind_assoc, bind_assoc]
      refine bind_congr fun a => ?_
      rw [ihright hright, bind_assoc]
      exact bind_congr fun b => reduce_of_le kernel hleast _ _ _ _

/-- Applying everything behind a tree gives the value of the tree. -/
theorem enter_result {n : Node} (hn : n.Grouped) :
    (do
      let c ← enter kernel .new n
      c.result kernel) = (evaluator kernel).fold n := by
  unfold result
  rw [← bind_assoc, enter_reduce kernel hn (Nat.zero_le _), bind_assoc]
  calc ((evaluator kernel).fold n >>= fun y => reduce kernel 0 [] [y] >>= _)
      = (evaluator kernel).fold n >>= pure := bind_congr fun y => by rw [reduce, pure_bind]
    _ = (evaluator kernel).fold n := bind_pure _

/-- Behind a tree that holds together tightly enough, the operator is stacked with the
value of the whole tree below it. -/
theorem enter_attach_of_le {n : Node} (hn : n.Grouped) {o : Operator} {x : Node}
    (hle : o.rank ≤ n.rank) {c : Calculator} (hc : ∀ p ∈ c.operators.head?, p.rank < o.rank) :
    (do
      let d ← enter kernel c n
      let reduced ← reduce kernel o.rank d.operators d.values
      enter kernel (reduced.hold o) x) = enter kernel c (n.attach o x) := by
  rw [Node.attach_of_le hle, ← bind_assoc, enter_reduce kernel hn hle, bind_assoc, enter]
  refine bind_congr fun y => ?_
  -- what was stacked before the tree is looser and stays
  rw [reduce_of_lt kernel hc, pure_bind]
  rfl

/-- An operator behind a tree: what binds as tightly is applied, then the operator and
its operand are stacked. The operators stacked before the tree are looser and stay. -/
theorem enter_attach {n : Node} (hn : n.Grouped) (o : Operator) (x : Node) {c : Calculator}
    (hc : ∀ p ∈ c.operators.head?, p.rank < o.rank) :
    (do
      let d ← enter kernel c n
      let reduced ← reduce kernel o.rank d.operators d.values
      enter kernel (reduced.hold o) x) = enter kernel c (n.attach o x) := by
  induction hn generalizing c with
  | operand hop =>
      refine enter_attach_of_le kernel (.operand hop) ?_ hc
      rw [hop.rank_eq]
      exact Nat.le_of_lt o.rank_lt
  | @binary left right p hp hleft hright hle hlt _ ihright =>
      by_cases hop : p.rank < o.rank
      · -- the operator goes on with the right operand, above the looser one
        rw [Node.attach_of_lt hop, enter, enter, bind_assoc]
        refine bind_congr fun a => ihright fun q hq => ?_
        rw [← Option.some.inj hq]
        exact hop
      · exact enter_attach_of_le kernel (.binary hp hleft hright hle hlt)
          (Nat.le_of_not_lt hop) hc

/-! ## Passing over the tokens -/

variable {source : Text} {tokens next : List Token}

theorem enter_value (c : Calculator) (x : Float) :
    enter kernel c (.value x) = pure (c.push x) :=
  pure_bind x _

theorem enter_negative (c : Calculator) (x : Float) :
    enter kernel c (Scan.negative x) = pure (c.push (negate x)) :=
  pure_bind (negate x) _

/-- The calculator stacks a number that the scan reads behind a minus sign. -/
theorem run_magnitude {n : Node} (h : Scan.literal source Scan.negative tokens = .ok (n, next))
    (c : Calculator) : run kernel source .magnitude c tokens = (do
      let d ← enter kernel c n
      run kernel source .operator d next) := by
  obtain ⟨t, rest, rfl, ⟨heof, rfl, rfl⟩ | ⟨hnumber, rfl, -, x, hx, rfl⟩⟩ :=
    Scan.literal_eq_ok h
  · rw [enter_negative, pure_bind, run, run, heof]
    rfl
  · rw [enter_negative, pure_bind, run, hnumber, hx]
    exact pure_bind x _

/-- The calculator stacks an operand that the scan reads. -/
theorem run_operand {n : Node} (h : Scan.operand source tokens = .ok (n, next))
    (c : Calculator) : run kernel source .operand c tokens = (do
      let d ← enter kernel c n
      run kernel source .operator d next) := by
  obtain ⟨t, rest, rfl, ⟨hminus, -, h⟩ | ⟨-, h⟩⟩ := Scan.operand_eq_ok h
  · rw [run, hminus]
    exact run_magnitude kernel h c
  · obtain ⟨t, rest, hcons, ⟨heof, rfl, rfl⟩ | ⟨hnumber, rfl, -, x, hx, rfl⟩⟩ :=
      Scan.literal_eq_ok h
    · rw [enter_value, pure_bind, hcons, run, run, heof]
      rfl
    · rw [enter_value, pure_bind, hcons, run, hnumber, hx]
      exact pure_bind x _

/-- The calculator behind a tree makes of the links that the scan reads the value of the
tree with the links behind it. The induction follows the loop of the links. -/
theorem run_links {least : Nat} (hleast : least = 1) {more : List (Operator × Node)}
    (h : Scan.links source least tokens = .ok (more, next)) {n : Node} (hn : n.Grouped) :
    (do
      let c ← enter kernel .new n
      run kernel source .operator c tokens) =
        (evaluator kernel).fold (Chain.extend n more) := by
  fun_induction Scan.links source least tokens generalizing more n with
  | case1 =>
      cases h
      exact enter_result kernel hn
  | case2 t rest hnone =>
      cases h
      rw [Chain.extend, List.foldl_nil, ← enter_result kernel hn]
      refine bind_congr fun c => ?_
      rw [run, hnone]
  | case3 t rest o ho hlt =>
      -- no operator is looser than the sums
      have hpos := Operator.rank_pos_of_ofKind? ho
      omega
  | case4 => cases h
  | case5 t rest o ho hge x behind hbehind ih =>
      obtain ⟨r, hlinks, hr⟩ := map_eq_ok h
      cases hr
      have hoperand := (Scan.operandBehind_eq_ok hbehind).2
      have hattached := hn.attach (Operator.isBinary_of_ofKind? ho)
        (Scan.operand_isOperand source hoperand)
      -- one link further on, the calculator is behind the tree with that link
      show _ = (evaluator kernel).fold (Chain.extend (n.attach o x) r.1)
      rw [← ih hlinks hattached, ← enter_attach kernel hn o x (by simp [new])]
      simp only [bind_assoc]
      refine bind_congr fun c => ?_
      rw [run, ho]
      exact bind_congr fun d => run_operand kernel hoperand _

/-- The value of a parsed source is what the calculator makes of it. -/
theorem evaluateWith_eq_calculate {p : Parser} {root : Node}
    (h : ((Parser.parse source).run p).outcome = .ok (some root)) :
    root.evaluateWith kernel = calculate kernel source := by
  rw [Parser.outcome_parse] at h
  obtain ⟨rest, -, hsubtree, -⟩ := Scan.parse_eq_ok source h
  obtain ⟨first, behind, more, hoperand, hlinks, rfl⟩ := Scan.subtree_eq_ok source hsubtree
  have hfirst : first.Grouped := .operand (Scan.operand_isOperand source hoperand)
  calc (Chain.extend first more).evaluateWith kernel
      = (evaluator kernel).fold (Chain.extend first more) := Visitor.visit_eq_fold _ _
    _ = enter kernel .new first >>= fun c => run kernel source .operator c behind :=
        (run_links kernel rfl hlinks hfirst).symm
    _ = calculate kernel source := (run_operand kernel hoperand .new).symm

/-- Evaluating the tree of a source comes to what the calculator makes of the source, the
same number or the same fault; and whatever the operators compute, both call them in the
same order and on the same numbers. -/
theorem evaluate_eq_calculate {p : Parser} {root : Node}
    (h : ((Parser.parse source).run p).outcome = .ok (some root)) :
    root.evaluate = calculate Operator.compute source ∧
      ∀ (compute : Operator → Float → Float → Except Fault Float) (calls : List Call),
        (root.evaluateWith (recording compute)).run.run calls =
          (calculate (recording compute) source).run.run calls :=
  ⟨evaluateWith_eq_calculate _ h, fun compute calls => by
    rw [evaluateWith_eq_calculate (recording compute) h]⟩

/-- Of two divisions by zero, both come upon the left one. -/
theorem evaluate_eq_calculate_divisions :
    (Node.binary (.binary (.value 9) (.value 0) (some .divide))
        (.binary (.value 1) (.value 0) (some .divide)) (some .subtract)).evaluate =
      calculate Operator.compute "9/0-1/0" ∧
      ∀ (compute : Operator → Float → Float → Except Fault Float) (calls : List Call),
        ((Node.binary (.binary (.value 9) (.value 0) (some .divide))
          (.binary (.value 1) (.value 0) (some .divide)) (some .subtract)).evaluateWith
            (recording compute)).run.run calls =
          (calculate (recording compute) "9/0-1/0").run.run calls :=
  evaluate_eq_calculate (p := .new true) (by decide +kernel)

end Calculator

end Reckoner
