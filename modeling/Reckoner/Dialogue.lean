import Reckoner.Session.Basic
import Reckoner.Text.Lines

/-!
# Dialogues

In a dialogue a reader types one expression a line and is shown a result or an error
for each, until the exit command or the end of the input. Every line is preceded by a
prompt, also the one that ends the dialogue. A faulty line is answered and done with.
Results are shown as `Text.ofResult` has them, whatever form is set.
-/

namespace Reckoner

/-- What a line is answered with. -/
inductive Answer where
  | result (x : Float)
  | failure (fault : Fault)
  deriving Repr

namespace Answer

/-- Whether the line had a result. -/
def isResult : Answer → Bool
  | result _ => true
  | failure _ => false

/-- The answer as a line. -/
def line : Answer → Text
  | result x => Text.ofResult x ++ ['\n']
  | failure fault => "Error: " ++ fault.message ++ ['\n']

end Answer

/-- What is left of a dialogue. -/
structure Transcript where
  /-- How many lines had a result. -/
  evaluated : Nat
  /-- Everything shown. -/
  output : Text
  deriving DecidableEq, Repr

namespace Dialogue

/-- The line before each line of the reader's. -/
def promptLine (settings : Settings) : Text :=
  settings.prompt.shown ++ ['\n']

/-- The lines to be answered: those before the exit command, without the blanks around
them. -/
def questions (settings : Settings) (input : Text) : List Text :=
  (input.lines.map Text.trim).takeWhile fun line => !settings.isExit line

/-- The answer to a line. -/
def answer (line : Text) : Action Session Answer := do
  match ← (Session.evaluate line).attempt with
  | .ok x => return .result x
  | .error fault =>
    if fault.label?.isSome then return .failure fault
    else Action.fail fault

/-- The whole dialogue on the given input. -/
def hold (settings : Settings) (input : Text) : Action Session Transcript := do
  let answers ← (questions settings input).mapM answer
  let evaluated := answers.countP (·.isResult)
  Action.report (.finished evaluated)
  let prompt := promptLine settings
  return ⟨evaluated, answers.flatMap (fun a => prompt ++ a.line) ++ prompt⟩

end Dialogue

end Reckoner
