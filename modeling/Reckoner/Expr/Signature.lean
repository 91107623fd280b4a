import Reckoner.Fault

/-!
# Comparing trees by their signatures

The signature of a tree lists its nodes in pre-order. Every kind of node has a fixed
number of operands, so the list determines the tree, and comparing two trees is
comparing two lists. Numbers are compared as floats are: the two zeros are equal.
-/

namespace Reckoner

/-- A node without its subtrees. -/
inductive Entry where
  | value (number : Float)
  | unary (number : Float) (operator : Option Operator)
  | binary (operator : Option Operator)
  | foreign (leaf : Foreign)
  deriving Repr

/-- Entries are equal if they are of one kind and everything in them is equal. -/
def Entry.equal : Entry → Entry → Bool
  | value x, value y => x == y
  | unary x o, unary y p => x == y && o == p
  | binary o, binary p => o == p
  | foreign a, foreign b => a == b
  | _, _ => false

instance : BEq Entry := ⟨Entry.equal⟩

/-- How many nodes a tree has. -/
def Node.count : Node → Nat
  | .binary left right _ => left.count + right.count + 1
  | _ => 1

/-- How many nodes some trees have together. -/
def Node.countAll : List Node → Nat
  | [] => 0
  | n :: rest => n.count + countAll rest

/-- The nodes of the given trees, each in pre-order, one tree after the other. -/
def Node.entries : List Node → List Entry
  | [] => []
  | .binary left right o :: rest => .binary o :: entries (left :: right :: rest)
  | .unary x o :: rest => .unary x o :: entries rest
  | .value x :: rest => .value x :: entries rest
  | .foreign leaf :: rest => .foreign leaf :: entries rest
termination_by nodes => Node.countAll nodes
decreasing_by all_goals simp only [Node.countAll, Node.count]; omega

/-- The nodes of a tree in pre-order. -/
def Node.signature (n : Node) : List Entry :=
  Node.entries [n]

/-- Whether two trees are equal. -/
def Node.equal (a b : Node) : Bool :=
  a.signature == b.signature

/-- The signature as a key to look trees up by. Tokens can be no part of a key. -/
def Node.key (n : Node) : Except Fault (List Entry) :=
  if n.signature.any fun e => match e with
      | .foreign (.token _) => true
      | _ => false
  then .error (.unhashable .token)
  else .ok n.signature

/-- Whether two trees are found under one key. -/
def Node.sameKey (a b : Node) : Except Fault Bool := do
  return (← a.key) == (← b.key)

end Reckoner
