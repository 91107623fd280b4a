import Reckoner.Settings
import Reckoner.Text.DecimalDigit
import Reckoner.Text.Quoted
import Reckoner.Text.Wrapped

/-!
# Command-line options

Arguments are read in two passes. The first tells options from values by their looks:
an argument that starts with a dash is an option unless it is a lone dash, looks like a
negative number or holds a space. A long option may be shortened as long as only one
option begins that way, and may have its value joined to it by an equals sign. What
follows a single dash and one letter is joined to that letter, with an equals sign or
without. The second pass goes through the arguments from left to right and gives each
option its value. There are no arguments other than options, so whatever is left over is
refused.
-/

namespace Reckoner.CommandLine

/-- The options there are. -/
inductive Flag where
  | help
  | expression
  | inputFile
  | outputPath
  | strict
  | logLevel
  deriving DecidableEq, Repr

namespace Flag

/-- Every spelling of an option, with the option. -/
def spellings : List (Text × Flag) :=
  [("-h", help), ("--help", help), ("--expression", expression), ("--input_file", inputFile),
    ("--output_path", outputPath), ("--strict", strict), ("--log_level", logLevel)]

/-- The option with exactly this spelling. -/
def ofSpelling? (s : Text) : Option Flag :=
  spellings.lookup s

/-- The options that have a spelling beginning like this. -/
def abbreviated (s : Text) : List (Text × Flag) :=
  spellings.filter fun (spelling, _) => s.isPrefixOf spelling

/-- The name of an option in messages: all its spellings. -/
def title (f : Flag) : Text :=
  Text.joinWith "/" ((spellings.filter (·.2 = f)).map (·.1))

/-- Whether an option needs a value. -/
def takesValue : Flag → Bool
  | help | strict => false
  | _ => true

end Flag

/-- Why the arguments lead to no work. -/
inductive Stop where
  /-- Help was asked for. -/
  | help
  /-- The arguments are not acceptable. -/
  | refused (reason : Text)
  deriving DecidableEq, Repr

/-- The refusal of what was given for an option. -/
def refusal (f : Flag) (reason : Text) : Stop :=
  .refused ("argument " ++ f.title ++ ": " ++ reason)

/-! ## Telling options from values -/

/-- What is joined to an option. -/
inductive Joined where
  | nothing
  /-- A value behind an option with two dashes. -/
  | value (s : Text)
  /-- More letters behind an option of one letter. -/
  | letters (s : Text)
  deriving DecidableEq, Repr

/-- What an argument looks like. -/
inductive Shape where
  /-- A value. -/
  | value
  /-- The separator, behind which everything is a value. -/
  | separator
  /-- An option, perhaps with something joined to it. -/
  | option (flag : Flag) (joined : Joined)
  /-- An option there is not. -/
  | stray
  deriving DecidableEq, Repr

/-- The part of a text before its first equals sign and the part behind it. -/
def splitAtEquals? (s : Text) : Option (Text × Text) :=
  match s.dropWhile (· != '=') with
  | _ :: value => some (s.takeWhile (· != '='), value)
  | [] => none

/-- What is joined to an option of the given spelling. -/
def Joined.behind (spelling s : Text) : Joined :=
  if spelling.length = 2 then .letters s else .value s

/-- Whether a text looks like a negative number: a dash before digits of any script, one
point at most among them and digits behind it. One line feed may follow. -/
def looksNegative (s : Text) : Bool :=
  match s with
  | '-' :: rest =>
    let rest := if rest.getLast? = some '\n' then rest.dropLast else rest
    let tail := rest.dropWhile Text.isDecimalDigit
    match tail with
    | [] => !rest.isEmpty
    | '.' :: fraction => !fraction.isEmpty && fraction.all Text.isDecimalDigit
    | _ => false
  | _ => false

/-- The spellings that an argument with a dash may be short for, with their options and
with what is joined to them. A single dash goes with one letter, and the rest is joined
to it. -/
def readings (s : Text) : List (Text × Shape) :=
  match s with
  | '-' :: '-' :: _ =>
    let (start, joined) := match splitAtEquals? s with
      | some (start, value) => (start, Joined.value value)
      | none => (s, .nothing)
    (Flag.abbreviated start).map fun (spelling, f) => (spelling, .option f joined)
  | _ =>
    let start := s.take 2
    match Flag.ofSpelling? start with
    | some f => [(start, .option f (.letters (s.drop 2)))]
    | none => []

/-- What an argument that begins with a dash looks like. -/
def dashedShape (s : Text) : Except Stop Shape :=
  match Flag.ofSpelling? s with
  | some f => .ok (.option f .nothing)
  | none =>
    if s.length = 1 then .ok .value
    else
      match splitAtEquals? s with
      | some (spelling, value) =>
        match Flag.ofSpelling? spelling with
        | some f => .ok (.option f (.behind spelling value))
        | none => undecided
      | none => undecided
where
  undecided : Except Stop Shape :=
    match readings s with
    | [(_, shape)] => .ok shape
    | [] => .ok (if looksNegative s || s.contains ' ' then .value else .stray)
    | several =>
      .error (.refused ("ambiguous option: " ++ s ++ " could match " ++
        Text.joinWith ", " (several.map (·.1))))

/-- What each argument looks like. -/
def shapes : List Text → Except Stop (List (Text × Shape))
  | [] => .ok []
  | s :: rest => do
    if s = "--" then
      return (s, .separator) :: rest.map fun r => (r, .value)
    else
      let shape ← if s.head? = some '-' then dashedShape s else .ok .value
      return (s, shape) :: (← shapes rest)

/-! ## Giving options their values -/

/-- What an option was given. -/
inductive Given where
  /-- A text. -/
  | text (s : Text)
  /-- An empty list of values: the separator is never a value, not even behind an equals
  sign. -/
  | nothing
  deriving DecidableEq, Repr

/-- What an option was given by the text `s`. -/
def Given.ofText (s : Text) : Given :=
  if s = "--" then nothing else text s

/-- The arguments, read. -/
structure Arguments where
  expression : Option Given := none
  inputFile : Option Given := none
  outputPath : Option Given := none
  strict : Bool := false
  logLevel : Option Given := none
  deriving DecidableEq, Repr

/-- Whether an option takes the given text for a value. -/
def Flag.admits (f : Flag) : Given → Except Stop Unit
  | .text s =>
    if f = .logLevel ∧ !Severity.all.any (·.name = s) then
      .error (refusal f ("invalid choice: " ++ s.quoted ++ " (choose from " ++
        Text.joinWith ", " (Severity.all.map fun l => l.name.quoted) ++ ")"))
    else .ok ()
  | .nothing => .ok ()

/-- The arguments with a value for an option; a later value replaces an earlier one. -/
def Arguments.set (a : Arguments) (f : Flag) (s : Text) : Except Stop Arguments := do
  let value := Given.ofText s
  f.admits value
  return match f with
    | .expression => { a with expression := some value }
    | .inputFile => { a with inputFile := some value }
    | .outputPath => { a with outputPath := some value }
    | .logLevel => { a with logLevel := some value }
    | .help | .strict => a

/-- The arguments with an option that needs no value. -/
def Arguments.switch (a : Arguments) : Flag → Except Stop Arguments
  | .help => .error .help
  | .strict => .ok { a with strict := true }
  | _ => .ok a

/-- The refusal of what is joined to an option that needs no value. -/
def unwanted (f : Flag) (joined : Text) : Stop :=
  refusal f ("ignored explicit argument " ++ joined.quoted)

/-- What the letters behind a single dash and `h` lead to. Each has to be an option of
its own, and `h` is the only one that is. -/
def unravel : Text → Stop
  | ['h'] => .help
  | 'h' :: rest => unravel rest
  | s => unwanted .help s

/-- Go through the arguments and give each option its value; what belongs to no option is
left over. -/
def assign (a : Arguments) : List (Text × Shape) → Except Stop (Arguments × List Text)
  | [] => .ok (a, [])
  | (_, .option f joined) :: rest =>
    match f.takesValue, joined, rest with
    | true, .value s, rest => do assign (← a.set f s) rest
    | true, _, (s, .value) :: rest => do assign (← a.set f s) rest
    | true, _, _ => .error (refusal f "expected one argument")
    | false, .nothing, rest => do assign (← a.switch f) rest
    | false, .value s, _ => .error (unwanted f s)
    | false, .letters s, _ => .error (unravel s)
  | (s, _) :: rest => do
    let (a, extra) ← assign a rest
    return (a, s :: extra)

/-- Read the arguments. -/
def Arguments.read (argv : List Text) : Except Stop Arguments := do
  let (a, extra) ← assign {} (← shapes argv)
  if extra.isEmpty then return a
  else .error (.refused ("unrecognized arguments: " ++ Text.joinWith " " extra))

/-! ## Help -/

/-- The lines that say what an option is for, each set in from the left. The help is as
wide as a terminal of eighty columns leaves room for. -/
def description (s : Text) : Text :=
  (s.wrapped 54).flatMap fun line => List.replicate 24 ' ' ++ line ++ ['\n']

/-- What the program says about itself when asked for help. -/
def helpText (settings : Settings) : Text :=
  "usage: main.py [-h] [--expression EXPRESSION] [--input_file INPUT_FILE]\n" ++
  "               [--output_path OUTPUT_PATH] [--strict]\n" ++
  "               [--log_level \x7bDEBUG,INFO,WARNING,ERROR,CRITICAL\x7d]\n\n" ++
  "Arithmetic expression evaluator\n\n" ++
  "options:\n" ++
  "  -h, --help            show this help message and exit\n" ++
  "  --expression EXPRESSION\n" ++
  description "Evaluate a single expression and exit" ++
  "  --input_file INPUT_FILE\n" ++
  description "Evaluate every non-blank line of a text file" ++
  "  --output_path OUTPUT_PATH\n" ++
  description "Save batch results as CSV (with --input_file)" ++
  "  --strict              Treat trailing unconsumed input as a syntax error\n" ++
  "  --log_level \x7bDEBUG,INFO,WARNING,ERROR,CRITICAL\x7d\n" ++
  description ("Logging level (default: " ++ settings.logLevel.shown ++ ")")

/-- What the program says when it refuses its arguments. -/
def complaint (reason : Text) : Text :=
  "main.py: error: " ++ reason

end Reckoner.CommandLine
