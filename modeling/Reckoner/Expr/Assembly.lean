import Reckoner.Fault
import Reckoner.Number.Numeral

/-!
# Assembling trees by hand

A tree can be put together from a list of items in postfix order: leaves go onto a
stack, operators take their operands off it. Unlike the parser, this can make every tree
there is, unsuitable operators and foreign leaves included, except that a unary node
only ever holds a plain number.
-/

namespace Reckoner

/-- A step of the assembly. -/
inductive Item where
  /-- A number given as a text. -/
  | numeral (text : Text)
  /-- A number given as an integer. -/
  | integer (n : Int)
  /-- A unary node over the topmost node. -/
  | unary (operator : Option Operator)
  /-- A unary node for which no operator is named, which makes it the identity. -/
  | plainUnary
  /-- A binary node over the two topmost nodes. -/
  | binary (operator : Option Operator)
  | foreign (leaf : Foreign)
  deriving DecidableEq, Repr

namespace Item

/-- The unary node over `operand`. -/
def wrap (operand : Node) (o : Option Operator) : Except Fault Node :=
  match operand with
  | .value x => .ok (.unary x o)
  | other => .error (.operandNotValue other.kind)

/-- One step, on the stack of nodes assembled so far. -/
def place (stack : List Node) : Item → Except Fault (List Node)
  | numeral text =>
    match Number.read? text with
    | some x => .ok (.value x :: stack)
    | none => .error (.notNumeral text)
  | integer n =>
    match Number.ofInt? n with
    | some x => .ok (.value x :: stack)
    | none => .error .integerTooLarge
  | unary o =>
    match stack with
    | operand :: below => return (← wrap operand o) :: below
    | [] => .error .emptyStack
  | plainUnary =>
    match stack with
    | operand :: below => return (← wrap operand (some .identity)) :: below
    | [] => .error .emptyStack
  | binary o =>
    match stack with
    | right :: left :: below => .ok (.binary left right o :: below)
    | _ => .error .emptyStack
  | foreign leaf => .ok (.foreign leaf :: stack)

end Item

/-- The node that a list of items makes; no items make an absent leaf. -/
def Node.assemble (items : List Item) : Except Fault Node := do
  match ← items.foldlM Item.place [] with
  | top :: _ => return top
  | [] => return .foreign .absent

/-- The fault of changing a node: nodes never change, and an absent one has nothing that
could. -/
def Node.assign (n : Node) (name : Text) : Fault :=
  match n with
  | .foreign .absent => .noFeature .absent name
  | n => .immutable n.kind

end Reckoner
