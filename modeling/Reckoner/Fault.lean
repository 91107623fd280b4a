import Reckoner.Expr.Basic
import Reckoner.Number.Layout
import Reckoner.Text.Quoted

/-!
# Faults (why something could not be done)

A fault is a cause with what its message needs; `message` is the one place where the
wording is settled. Faults fall into families. Four of them are what an expression can
do wrong: these are reported under a label, and loops over many expressions go on after
them. The others end the run.
-/

namespace Reckoner

/-- What keeps a file from being used. -/
inductive Obstacle where
  | missing
  | notFolder
  | isFolder
  | nameTooLong
  deriving DecidableEq, Repr

namespace Obstacle

/-- The number of an obstacle. -/
def number : Obstacle → Nat
  | missing => 2
  | notFolder => 20
  | isFolder => 21
  | nameTooLong => 36

/-- An obstacle in words. -/
def message : Obstacle → Text
  | missing => "No such file or directory"
  | notFolder => "Not a directory"
  | isFolder => "Is a directory"
  | nameTooLong => "File name too long"

end Obstacle

/-- Why something could not be done. -/
inductive Fault where
  /-- The source holds something that is no token. -/
  | invalidToken (offset : Int) (text : Text)
  /-- A number token spells nothing. -/
  | emptyNumber (offset : Int)
  /-- A number token spells no numeral. -/
  | malformedNumber (offset : Int) (text : Text)
  /-- A token stands where the grammar allows none of its kind. -/
  | unexpectedToken (offset : Int) (text : Text)
  /-- The source goes on after a complete expression. -/
  | trailingToken (offset : Int) (text : Text)
  /-- A unary node has an operator that takes no single operand. -/
  | invalidUnary (operator : Option Operator)
  /-- A binary node has an operator that takes no two operands. -/
  | invalidBinary (operator : Option Operator)
  /-- A tree holds a leaf that is no expression. -/
  | unknownNode (kind : DataKind)
  /-- The divisor is zero. -/
  | divisionByZero (dividend : Float)
  /-- A text that has to be a numeral is none. -/
  | notNumeral (text : Text)
  /-- An integer exceeds every float. -/
  | integerTooLarge
  /-- A value that has to be a number cannot become one. -/
  | notConvertible (kind : DataKind)
  /-- The operand of a unary node is no plain number. -/
  | operandNotValue (kind : DataKind)
  /-- A value that has to serve as a key cannot. -/
  | unhashable (kind : DataKind)
  /-- A node cannot be changed. -/
  | immutable (kind : DataKind)
  /-- A value lacks something that is asked of it. -/
  | noFeature (kind : DataKind) (name : Text)
  /-- Two values have no order. -/
  | unordered (relation : Text) (left right : DataKind)
  /-- Nothing can be sought in a value of this kind. -/
  | notIterable (kind : DataKind)
  /-- A name that has to be a text is none. -/
  | nameNotText (kind : DataKind)
  /-- No logging level has this name. -/
  | unknownLevel (name : Text)
  /-- A setting is not acceptable. -/
  | rejectedSetting (reason : Text)
  /-- The way of treating errors is unknown. -/
  | unknownErrorMode (mode : Text)
  /-- There are not as many labels as rows. -/
  | labelMismatch (rows labels : Nat)
  /-- There are not as many labels as values in a labelled series. -/
  | seriesMismatch (values labels : Nat)
  /-- The file that a path leads to cannot be used. -/
  | unusableFile (obstacle : Obstacle) (path : Text)
  /-- There is no folder to write a file into. -/
  | noFolder (path : Text)
  /-- A path holds a null character. -/
  | nullInPath
  /-- A value was taken from an empty stack. -/
  | emptyStack
  /-- A token that has to be an operator is none. -/
  | notOperator (kind : TokenKind)
  deriving DecidableEq, Repr

/-- The families of faults. -/
inductive Fault.Family where
  | lexical
  | grammatical
  | evaluation
  | division
  | value
  | type
  | overflow
  | feature
  | setting
  | file (obstacle : Obstacle)
  | system
  | defect
  deriving DecidableEq, Repr

/-- The label that faults of a family are reported under, for the families of faults
that an expression can have. -/
def Fault.Family.label? : Fault.Family → Option Text
  | .lexical => some "LexError"
  | .grammatical => some "ExpressionSyntaxError"
  | .evaluation => some "EvalError"
  | .division => some "DivisionByZero"
  | _ => none

namespace Fault

/-- The family of a fault. -/
def family : Fault → Family
  | invalidToken .. | emptyNumber .. | malformedNumber .. => .lexical
  | unexpectedToken .. | trailingToken .. => .grammatical
  | invalidUnary .. | invalidBinary .. | unknownNode .. => .evaluation
  | divisionByZero .. => .division
  | notNumeral .. | unknownErrorMode .. | labelMismatch .. | seriesMismatch ..
  | nullInPath => .value
  | notConvertible .. | operandNotValue .. | unhashable .. | unordered .. | notIterable ..
  | nameNotText .. => .type
  | integerTooLarge => .overflow
  | immutable .. | noFeature .. | unknownLevel .. => .feature
  | rejectedSetting .. => .setting
  | unusableFile obstacle _ => .file obstacle
  | noFolder .. => .system
  | emptyStack | notOperator .. => .defect

/-- Where in the source the fault lies, for faults that are tied to a place. -/
def offset? : Fault → Option Int
  | invalidToken offset _ | emptyNumber offset | malformedNumber offset _
  | unexpectedToken offset _ | trailingToken offset _ => some offset
  | _ => none

/-- A message about a text at a place. -/
def located (what : Text) (text : Text) (offset : Int) : Text :=
  what ++ " " ++ text.quoted ++ " at offset " ++ Text.ofInt offset

/-- What went wrong, in words. -/
def message : Fault → Text
  | invalidToken offset text => located "Invalid token" text offset
  | emptyNumber offset => "Empty number token at offset " ++ Text.ofInt offset
  | malformedNumber offset text => located "Malformed number" text offset
  | unexpectedToken offset text => located "Unexpected token" text offset
  | trailingToken offset text => located "Unexpected trailing token" text offset
  | invalidUnary operator => "Invalid operator in UnaryExpr: " ++ Operator.describe operator
  | invalidBinary operator => "Invalid operator in BinaryExpr: " ++ Operator.describe operator
  | unknownNode kind => "Unknown expression node: " ++ kind.name
  | divisionByZero dividend => "Cannot divide " ++ Text.ofFloat dividend ++ " by 0"
  | notNumeral text => "could not convert string to float: " ++ text.quoted
  | integerTooLarge => "int too large to convert to float"
  | notConvertible kind =>
    "float() argument must be a string or a real number, not '" ++ kind.name ++ "'"
  | operandNotValue kind => "UnaryExpr operand must be a ValueExpr, got " ++ kind.name
  | unhashable kind => "unhashable type: '" ++ kind.name ++ "'"
  | immutable kind => kind.name ++ " is immutable"
  | noFeature kind name =>
    "'" ++ kind.name ++ "' object has no attribute '" ++ name ++ "'"
  | unordered relation left right =>
    "'" ++ relation ++ "' not supported between instances of '" ++ left.name ++ "' and '" ++
      right.name ++ "'"
  | notIterable kind => "argument of type '" ++ kind.name ++ "' is not iterable"
  | nameNotText kind => "attribute name must be string, not '" ++ kind.name ++ "'"
  | unknownLevel name => "module 'logging' has no attribute '" ++ name ++ "'"
  | rejectedSetting reason => reason
  | unknownErrorMode mode => "errors must be 'raise' or 'coerce', got " ++ mode.quoted
  | labelMismatch rows labels =>
    "Length mismatch: Expected axis has " ++ Text.ofNat rows ++ " elements, new values have " ++
      Text.ofNat labels ++ " elements"
  | seriesMismatch values labels =>
    "Length of values (" ++ Text.ofNat values ++ ") does not match length of index (" ++
      Text.ofNat labels ++ ")"
  | unusableFile obstacle path =>
    "[Errno " ++ Text.ofNat obstacle.number ++ "] " ++ obstacle.message ++ ": " ++ path.quoted
  | noFolder path => "Cannot save file into a non-existent directory: '" ++ path ++ "'"
  | nullInPath => "embedded null byte"
  | emptyStack => "pop from empty list"
  | notOperator kind => kind.name

/-- The label that the fault is reported under, if an expression can have it. -/
def label? (f : Fault) : Option Text :=
  f.family.label?

end Fault

end Reckoner
