import Reckoner.Operator

/-!
# Expression trees

A node is a number, a number under a unary operator, or two nodes under a binary one;
operators may be missing. Trees assembled by hand can also hold leaves that are no
expressions at all, which are kept so that every operation can say what it does when
it meets one. An absent leaf at the root makes the whole tree empty, as no input at
all does.
-/

namespace Reckoner

/-- A leaf that is no expression. -/
inductive Foreign where
  | absent
  | token (t : Token)
  deriving DecidableEq, Repr

/-- The printed form of a foreign leaf. -/
def Foreign.describe : Foreign → Text
  | .absent => "None"
  | .token t => t.describe

/-- An expression, or a tree of expressions with foreign leaves. -/
inductive Node where
  | value (number : Float)
  | unary (operand : Float) (operator : Option Operator)
  | binary (left right : Node) (operator : Option Operator)
  | foreign (leaf : Foreign)
  deriving DecidableEq, Repr

/-- An expression tree; the empty tree has no root. -/
abbrev Tree := Option Node

/-- The tree with the given root: empty if there is nothing at the root. -/
def Tree.ofNode : Node → Tree
  | .foreign .absent => none
  | n => some n

/-- What kind of thing a value is, for messages that name it. -/
inductive DataKind where
  | absent
  | truth
  | integer
  | float
  | text
  | list
  | token
  | value
  | unary
  | binary
  deriving DecidableEq, Repr

/-- The name of a kind of value in messages. -/
def DataKind.name : DataKind → Text
  | absent => "NoneType"
  | truth => "bool"
  | integer => "int"
  | float => "float"
  | text => "str"
  | list => "list"
  | token => "Token"
  | value => "ValueExpr"
  | unary => "UnaryExpr"
  | binary => "BinaryExpr"

/-- The kind of a foreign leaf. -/
def Foreign.kind : Foreign → DataKind
  | absent => .absent
  | token _ => .token

/-- The kind of a node. -/
def Node.kind : Node → DataKind
  | .value _ => .value
  | .unary _ _ => .unary
  | .binary _ _ _ => .binary
  | .foreign leaf => leaf.kind

end Reckoner
