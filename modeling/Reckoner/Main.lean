import Reckoner.CommandLine.Run
import Reckoner.Session.Listing

/-!
# The program, run

This is where the program meets the world: it reads arguments, files and lines, and
shows and writes what the library has worked out. A dialogue is held line by line, so
that every answer is seen before the next line is typed.
-/

namespace Reckoner

/-- Show a text at once. -/
def put (stream : IO.FS.Stream) (t : Text) : IO Unit := do
  stream.putStr (String.ofList t)
  stream.flush

/-- Show and write everything that a run has come to. -/
def conclude (outcome : Except Fault CommandLine.Outcome) : IO UInt32 := do
  let out ← IO.getStdout
  let err ← IO.getStderr
  match outcome with
  | .error fault =>
    put err (fault.message ++ ['\n'])
    return 1
  | .ok o =>
    put err o.errors
    match o.output with
    | .inl t => put out t
    | .inr table => put out table.listing
    for (name, content) in o.files do
      IO.FS.writeFile (String.ofList name) (String.ofList content)
    return o.exit.toUInt32

/-- Answer line after line until the dialogue is over. -/
partial def converse (settings : Settings) (least evaluated : Nat) (session : Session) :
    IO UInt32 := do
  let out ← IO.getStdout
  let err ← IO.getStderr
  put out (Dialogue.promptLine settings)
  let input := (← (← IO.getStdin).getLine).toList
  let line := Text.trim input
  if input.isEmpty || settings.isExit line then
    put err (CommandLine.logText least [.finished evaluated])
    return 0
  let step := (Dialogue.answer line).run session
  put err (CommandLine.logText least step.events)
  match step.outcome with
  | .ok answer =>
    put out answer.line
    converse settings least (if answer.isResult then evaluated + 1 else evaluated) step.state
  | .error fault => conclude (.error fault)

end Reckoner

open Reckoner CommandLine in
/-- Run the program on its arguments. -/
def main (args : List String) : IO UInt32 := do
  let settings : Settings := {}
  match plan settings (args.map String.toList) with
  | .error fault => conclude (.error fault)
  | .ok (.help t) => conclude (.ok ⟨0, .inl t, [], []⟩)
  | .ok (.complain t) => conclude (.ok ⟨2, .inl [], t ++ ['\n'], []⟩)
  | .ok (.work (.single source) session least) => conclude (runSingle session least source)
  | .ok (.work (.batch file output) session least) =>
    let content ← IO.FS.readFile (String.ofList file)
    conclude (runBatch session least file content.toList output)
  | .ok (.work .dialogue session least) => converse settings least 0 session
