import Reckoner.Fault

/-!
# Events (what a run reports about itself)

Working on expressions reports events along the way. An event is a cause, like a
fault; who reports it, how grave it is and its wording are functions of the cause. A
log is a list of events, and it is shown from some severity upwards.
-/

namespace Reckoner

/-- How grave an event is. -/
inductive Severity where
  | debug
  | info
  | warning
  | error
  | critical
  deriving DecidableEq, Repr

namespace Severity

/-- Every severity, from the least grave to the gravest. -/
def all : List Severity :=
  [debug, info, warning, error, critical]

/-- The name of a severity. -/
def name : Severity → Text
  | debug => "DEBUG"
  | info => "INFO"
  | warning => "WARNING"
  | error => "ERROR"
  | critical => "CRITICAL"

/-- The rank of a severity. -/
def rank : Severity → Nat
  | debug => 10
  | info => 20
  | warning => 30
  | error => 40
  | critical => 50

/-- The severity with the given name. -/
def ofName? (s : Text) : Option Severity :=
  all.find? (·.name == s)

end Severity

/-- Something that happened while working. -/
inductive Event where
  /-- A run of digits and points holds more than one point. -/
  | malformedNumber (offset : Int) (text : Text)
  /-- The input ended where an operand has to stand. -/
  | missingOperand
  /-- The input ended after a minus sign. -/
  | missingOperandAfterMinus
  /-- The input holds no tokens. -/
  | emptyInput
  /-- What follows a complete expression is not looked at. -/
  | ignoredTrailing (offset : Int)
  /-- A source was parsed. -/
  | parsed (source : Text)
  /-- A tree was evaluated. -/
  | evaluated (result : Float)
  /-- The least recently used result made room. -/
  | evicted (source : Text)
  /-- All results were dropped, and the counters with them. -/
  | dropped (results hits misses : Nat)
  /-- One of many expressions has a fault. -/
  | failed (source report : Text)
  /-- Of many expressions, some had faults. -/
  | tallied (total faulty : Nat)
  /-- The dialogue is over. -/
  | finished (count : Nat)
  /-- The lines of a file were taken as expressions. -/
  | loaded (count : Nat) (file : Text)
  /-- The results are about to be written to a file. -/
  | saving (file : Text)
  deriving DecidableEq, Repr

namespace Event

/-- How much of a source an event quotes. -/
def excerpt (source : Text) : Text :=
  source.take 50

/-- The part of the library that reports an event. -/
def reporter : Event → Text
  | malformedNumber .. => "core.lexer"
  | missingOperand | missingOperandAfterMinus | emptyInput | ignoredTrailing ..
  | parsed .. => "core.parser"
  | evaluated .. => "core.ast_evaluator"
  | evicted .. | dropped .. | failed .. | tallied .. => "engine.evaluator"
  | finished .. | loaded .. | saving .. => "main"

/-- How grave an event is. -/
def severity : Event → Severity
  | dropped .. | tallied .. | loaded .. | saving .. => .info
  | failed .. => .warning
  | _ => .debug

/-- What happened, in words. -/
def message : Event → Text
  | malformedNumber offset text =>
    "Malformed number at offset " ++ Text.ofInt offset ++ ": " ++ text.quoted
  | missingOperand => "Operand missing at end of input, using 0"
  | missingOperandAfterMinus => "Operand missing after '-' at end of input, using 0"
  | emptyInput => "Empty input, returning empty tree"
  | ignoredTrailing offset => "Ignoring trailing input from offset " ++ Text.ofInt offset
  | parsed source => "Parsed expression: " ++ (excerpt source).quoted
  | evaluated result => "Evaluated expression tree = " ++ Text.ofFloat result
  | evicted source => "Evicted cached expression: " ++ excerpt source
  | dropped results hits misses =>
    "Dropping " ++ Text.ofNat results ++ " cached results (hits=" ++ Text.ofNat hits ++
      ", misses=" ++ Text.ofNat misses ++ ")"
  | failed source report =>
    "Error evaluating expression '" ++ excerpt source ++ "': " ++ report
  | tallied total faulty =>
    "Evaluated " ++ Text.ofNat total ++ " expressions, " ++ Text.ofNat faulty ++ " failed"
  | finished count => "REPL finished after " ++ Text.ofNat count ++ " expressions"
  | loaded count file =>
    "Loaded " ++ Text.ofNat count ++ " expressions from " ++ file
  | saving file => "Saving results to " ++ file

/-- The event as a line of a log. -/
def line (e : Event) : Text :=
  e.reporter ++ " - " ++ e.severity.name ++ " - " ++ e.message

/-- The lines of those events whose severity has at least the rank `least`. -/
def shown (least : Nat) (events : List Event) : List Text :=
  (events.filter fun e => least ≤ e.severity.rank).map line

end Event

end Reckoner
