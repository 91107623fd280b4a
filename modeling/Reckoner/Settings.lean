import Reckoner.Event
import Reckoner.Number.Numeral
import Reckoner.Text.Blank

/-!
# Settings

Settings come from outside and may hold values of any kind, so each is kept as it was
given. `Settings.check` is where they are examined, in a fixed order; the first that is
not acceptable is the one complained about. What is not examined there is turned into
what it is needed for by the functions behind it.
-/

namespace Reckoner

/-- The value of a setting. -/
inductive Setting where
  | absent
  | truth (b : Bool)
  | integer (n : Int)
  | float (x : Float)
  | text (s : Text)
  deriving DecidableEq, Repr

namespace Setting

/-- The kind of a value. -/
def kind : Setting → DataKind
  | absent => .absent
  | truth _ => .truth
  | integer _ => .integer
  | float _ => .float
  | text _ => .text

/-- The value as it is shown. -/
def shown : Setting → Text
  | absent => "None"
  | truth b => if b then "True" else "False"
  | integer n => Text.ofInt n
  | float x => Text.ofFloat x
  | text s => s

/-- Whether the value counts as a yes: everything does but what is zero or empty. -/
def isYes : Setting → Bool
  | absent => false
  | truth b => b
  | integer n => n != 0
  | float x => x != 0
  | text s => !s.isEmpty

/-- The value as a float. -/
def toFloat : Setting → Except Fault Float
  | absent => .error (.notConvertible .absent)
  | truth b => .ok (if b then 1 else 0)
  | integer n =>
    match Number.ofInt? n with
    | some x => .ok x
    | none => .error .integerTooLarge
  | float x => .ok x
  | text s =>
    match Number.read? s with
    | some x => .ok x
    | none => .error (.notNumeral s)

/-- Whether the value is zero or more, if it can be compared with a number. -/
def isNatural : Setting → Except Fault Bool
  | truth _ => .ok true
  | integer n => .ok (0 ≤ n)
  | float x => .ok (0 ≤ x)
  | other => .error (.unordered ">=" other.kind .integer)

end Setting

/-- How many results a session keeps. -/
inductive Limit where
  /-- None. -/
  | off
  /-- So many; a result that is one too many drives the oldest out. -/
  | entries (count : Nat)
  /-- As many as there are. -/
  | unbounded
  /-- The setting is no number, which is found out when a result is to be kept. -/
  | unusable (kind : DataKind)
  deriving DecidableEq, Repr

namespace Limit

/-- The limit that an integer sets; nothing is kept for zero and below. -/
def ofInt (n : Int) : Limit :=
  if n ≤ 0 then off else entries n.toNat

/-- The limit that a float sets: a count of results exceeds it if it exceeds its whole
part. -/
def ofFloat (x : Float) : Limit :=
  if x ≤ 0 then off
  else if x.isFinite then entries x.toUInt64.toNat
  else unbounded

/-- The limit that a setting sets. -/
def ofSetting : Setting → Limit
  | .truth b => ofInt (if b then 1 else 0)
  | .integer n => ofInt n
  | .float x => ofFloat x
  | other => unusable other.kind

end Limit

/-- Everything that can be set. -/
structure Settings where
  /-- Whether input behind a complete expression is a fault. -/
  strictTrailing : Setting := .truth false
  /-- How many results are kept. -/
  cacheSize : Setting := .integer 1000
  /-- The value of an empty expression. -/
  emptyResult : Setting := .float 0
  /-- What a dialogue shows before each line. -/
  prompt : Setting := .text "Enter an expression:"
  /-- The line that ends a dialogue. -/
  exitCommand : Setting := .text "end"
  /-- The form in which results are shown. It is examined with the others, but results are
  only ever shown in the form that is set here (`Text.ofResult`). -/
  resultFormat : Setting := .text "\x7b:.10g\x7d"
  /-- The severity from which on events are shown. -/
  logLevel : Setting := .text "INFO"
  deriving DecidableEq, Repr

namespace Settings

/-- Accept or refuse. -/
def demand (holds : Bool) (reason : Text) : Except Fault Unit :=
  if holds then .ok () else .error (.rejectedSetting reason)

/-- A setting that has to be a text that is not blank. -/
def isWritten : Setting → Except Fault Bool
  | .text s => .ok !s.trim.isEmpty
  | other => .error (.noFeature other.kind "strip")

/-- A setting that has to be a text with a place to fill in. -/
def isTemplate : Setting → Except Fault Bool
  | .text s => .ok (s.contains '\x7b')
  | other => .error (.notIterable other.kind)

/-- Examine the settings. -/
def check (s : Settings) : Except Fault Unit := do
  demand (s.strictTrailing.kind = .truth) "strict_trailing必须是bool"
  demand (← s.cacheSize.isNatural) "cache_size不能为负"
  demand (s.emptyResult.kind = .float) "empty_result必须是float"
  demand (← isWritten s.exitCommand) "exit_command不能为空"
  demand (← isTemplate s.resultFormat) "result_format必须是format模板"
  demand (Severity.all.any fun l => s.logLevel = .text l.name) []

/-- Whether a parser is strict: as asked for, or else as set. -/
def strict (s : Settings) (asked : Option Bool) : Bool :=
  asked.getD s.strictTrailing.isYes

/-- Whether a line ends a dialogue. -/
def isExit (s : Settings) (line : Text) : Bool :=
  s.exitCommand = .text line

end Settings

/-- A result as it is shown to a reader, in the form that `Settings.resultFormat` has unless
it is changed: ten significant digits. Templates of another form pass the check but are not
filled in. -/
def Text.ofResult (x : Float) : Text :=
  Number.Layout.display.write x

end Reckoner
