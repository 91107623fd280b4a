import Reckoner.CommandLine.Options
import Reckoner.Csv
import Reckoner.Dialogue
import Reckoner.Folder

/-!
# The program

The arguments and the settings decide what is to be done: show help, refuse, evaluate
one expression, evaluate the lines of a file, or hold a dialogue. `plan` makes that
decision. `run` carries it out on texts alone: the input and the files go in, and what
is shown and written comes out.
-/

namespace Reckoner.CommandLine

/-- The work to be done. -/
inductive Job where
  /-- Evaluate one expression. -/
  | single (source : Text)
  /-- Evaluate the lines of a file, and perhaps write the table to another. -/
  | batch (file : Text) (output : Option Text)
  /-- Evaluate the lines that a reader types. -/
  | dialogue
  deriving DecidableEq, Repr

/-- What the arguments and the settings lead to. -/
inductive Plan where
  /-- Show the text and be done. -/
  | help (text : Text)
  /-- Complain and be done. -/
  | complain (text : Text)
  /-- Do the job in the session, and show events from the given rank on. -/
  | work (job : Job) (session : Session) (least : Nat)

/-- Everything that shows of a run of the program. -/
structure Outcome where
  /-- The exit code. -/
  exit : Nat
  /-- What is shown, unless it is the table of a batch. -/
  output : Text ⊕ Table
  /-- What is shown beside it: the log, and the error of a single expression. -/
  errors : Text
  /-- The files to be written. -/
  files : List (Text × Text)

/-- The ranks from which on events can be shown, by name. -/
def ranks : List (Text × Nat) :=
  ("FATAL", 50) :: ("WARN", 30) :: ("NOTSET", 0) :: Severity.all.map fun l => (l.name, l.rank)

/-- The rank of the given name. -/
def rank (name : Text) : Except Fault Nat :=
  match ranks.lookup name with
  | some n => .ok n
  | none => .error (.unknownLevel name)

/-- The rank from which on events are shown: as asked for, or else as set. -/
def leastRank (settings : Settings) (asked : Option Given) : Except Fault Nat :=
  match asked with
  | some (.text name) => rank name
  | some .nothing => .error (.nameNotText .list)
  | none =>
    match settings.logLevel with
    | .text name => rank name
    | other => .error (.nameNotText other.kind)

/-- The name of a file, if one is given. -/
def fileName : Option Given → Option Text
  | some (.text s) => if s.isEmpty then none else some s
  | _ => none

/-- The job that the arguments ask for. No result can be looked up for an expression that
is no text. -/
def job (a : Arguments) : Except Fault Job :=
  match a.expression, fileName a.inputFile with
  | some (.text source), _ => .ok (.single source)
  | some .nothing, _ => .error (.unhashable .list)
  | none, some file => .ok (.batch file (fileName a.outputPath))
  | none, none => .ok .dialogue

/-- What the arguments and the settings lead to. -/
def plan (settings : Settings) (argv : List Text) : Except Fault Plan :=
  match Arguments.read argv with
  | .error .help => .ok (.help (helpText settings))
  | .error (.refused reason) => .ok (.complain (complaint reason))
  | .ok a => do
    let least ← leastRank settings a.logLevel
    settings.check
    let session := Session.ofSettings settings (if a.strict then some true else none) none
    return .work (← job a) session least

/-! ## Carrying out -/

/-- The lines of a log. -/
def logText (least : Nat) (events : List Event) : Text :=
  (Event.shown least events).flatMap (· ++ ['\n'])

/-- Evaluate one expression. Its result is shown, and its fault beside the log if it is a
fault of the expression; any other fault ends the program. -/
def runSingle (session : Session) (least : Nat) (source : Text) : Except Fault Outcome :=
  let step := (Session.evaluate source).run session
  let log := logText least step.events
  match step.outcome with
  | .ok x => .ok ⟨0, .inl (Text.ofResult x ++ ['\n']), log, []⟩
  | .error fault =>
    if fault.label?.isSome then .ok ⟨1, .inl [], log ++ fault.message ++ ['\n'], []⟩
    else .error fault

/-- The expressions in a file: its lines that are not blank. -/
def expressions (content : Text) : List Text :=
  (content.withLineFeeds.lines.map Text.trim).filter (!·.isEmpty)

/-- Evaluate the lines of a file. -/
def batch (file content : Text) (output : Option Text) : Action Session Table := do
  let sources := expressions content
  Action.report (.loaded sources.length file)
  let table ← Session.evaluateMany sources "coerce" none
  match output with
  | some path => Action.report (.saving path)
  | none => pure ()
  return table

/-- Evaluate the lines of a file, and write the table if there is a file for it. -/
def runBatch (session : Session) (least : Nat) (file content : Text) (output : Option Text) :
    Except Fault Outcome :=
  let step := (batch file content output).run session
  match step.outcome with
  | .ok table =>
    .ok {
      exit := if 0 < table.faulty then 1 else 0
      output := .inr table
      errors := logText least step.events
      files := output.toList.map fun path => (path, Csv.ofTable table) }
  | .error fault => .error fault

/-- Hold a dialogue on the given input. -/
def runDialogue (settings : Settings) (session : Session) (least : Nat) (input : Text) :
    Except Fault Outcome :=
  let step := (Dialogue.hold settings input.withLineFeeds).run session
  match step.outcome with
  | .ok transcript => .ok ⟨0, .inl transcript.output, logText least step.events, []⟩
  | .error fault => .error fault

/-- Run the program: on its arguments, on what a reader types, and in a folder. The files
to be written have their paths from that folder. -/
def run (settings : Settings) (argv : List Text) (input : Text) (folder : Folder) :
    Except Fault Outcome := do
  match ← plan settings argv with
  | .help text => return ⟨0, .inl text, [], []⟩
  | .complain text => return ⟨2, .inl [], text, []⟩
  | .work (.single source) session least => runSingle session least source
  | .work (.batch file output) session least =>
    let outcome ← runBatch session least file (← folder.read file) output
    let files ← outcome.files.mapM fun (path, content) => do
      return (← folder.target path).map fun target => (target, content)
    return { outcome with files := files.filterMap id }
  | .work .dialogue session least => runDialogue settings session least input

end Reckoner.CommandLine
