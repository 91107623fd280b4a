import Mathlib.Data.List.DropRight
import Mathlib.Data.List.TakeWhile
import Reckoner.Proofs.Dialogues

/-!
# Exit commands (which lines end a dialogue)

Lines are trimmed before they are compared with the exit command, and the command is
compared as it was set. The check of the settings only asks that something is left of the
command once it is trimmed, so commands with blanks around them pass it.

* `Text.trim_trim`: a trimmed text has nothing left to trim, so no line equals a command
  that has.
* `Dialogue.questions_of_trimmed`, `Dialogue.questions_of_padded`: a command without blanks
  around it ends the dialogue at the first line that comes to it; any other command never
  does.
* `Dialogue.hold_exit`: whole dialogues, with any command that passes the check.
-/

namespace Reckoner

/-- Trimming again changes nothing: behind the blanks at the front stands no blank, and
what is trimmed at the back leaves the front as it is. -/
theorem Text.trim_trim (s : Text) : s.trim.trim = s.trim := by
  have hback : s.trim = (s.dropWhile isBlank).rdropWhile isBlank := rfl
  have hfront : s.trim.dropWhile isBlank = s.trim := by
    cases htrim : s.trim with
    | nil => rfl
    | cons c rest =>
        obtain ⟨more, hmore⟩ : s.trim <+: s.dropWhile isBlank :=
          hback ▸ List.rdropWhile_prefix isBlank _
        have hfirst := List.head?_dropWhile_not isBlank s
        rw [← hmore, htrim] at hfirst
        rw [List.dropWhile_cons_of_neg]
        simpa using hfirst
  calc s.trim.trim
      = (s.trim.dropWhile isBlank).rdropWhile isBlank := rfl
    _ = s.trim.rdropWhile isBlank := by rw [hfront]
    _ = s.trim := by rw [hback, List.rdropWhile_idempotent]

namespace Dialogue

variable {settings : Settings} {command : Text}

/-- A command without blanks around it ends the dialogue at the first line that is the
command, blanks around the line left aside. -/
theorem questions_of_trimmed (hexit : settings.exitCommand = .text command)
    (htrimmed : command.trim = command) (input : Text) :
    questions settings input = (input.lines.map Text.trim).takeWhile (· ≠ command.trim) := by
  unfold questions
  congr 1
  funext line
  simp [Settings.isExit, hexit, htrimmed, eq_comm]

/-- A command with blanks around it never ends the dialogue. -/
theorem questions_of_padded (hexit : settings.exitCommand = .text command)
    (hpadded : command.trim ≠ command) (input : Text) :
    questions settings input = input.lines.map Text.trim := by
  refine List.takeWhile_eq_self_iff.mpr fun line hline => ?_
  obtain ⟨raw, -, rfl⟩ := List.mem_map.mp hline
  have hne : command ≠ raw.trim := by
    intro heq
    apply hpadded
    rw [heq, Text.trim_trim]
  simp [Settings.isExit, hexit, hne]

/-- With an exit command that passes the check, and default settings otherwise, a dialogue in
a session that has done anything before answers the lines in front of the first one that is
the command, blanks around either left aside, if no blanks stand around the command as it was
set. If there are some, it answers all lines, those that are the command too. Each line is
answered as it is alone, and evaluating these lines is all that the session does. -/
theorem hold_exit (command : Text)
    (hcheck : ({ exitCommand := .text command } : Settings).check = .ok ())
    (strict : Option Bool) (size : Option Int) (ops : List Session.Operation)
    {lines : List Text} {input : Text} (hlines : Text.Lined lines input) :
    let settings : Settings := { exitCommand := .text command }
    let fresh := Session.ofSettings settings strict size
    let s := fresh.after ops
    let typed := lines.map Text.trim
    let asked := if command.trim = command then typed.takeWhile (· ≠ command.trim) else typed
    let answers := asked.map fun line => Session.answerOf (Session.appraisal fresh line)
    ((hold settings input).run s).outcome = .ok ⟨answers.countP (·.isResult),
        answers.flatMap (fun a => promptLine settings ++ a.line) ++ promptLine settings⟩ ∧
      ((hold settings input).run s).state = s.after (asked.map .evaluate) := by
  intro settings fresh s typed asked answers
  have hquestions : questions settings input = asked := by
    by_cases htrimmed : command.trim = command
    · rw [questions_of_trimmed rfl htrimmed, Text.lined_iff.mp hlines]
      exact (if_pos htrimmed).symm
    · rw [questions_of_padded rfl htrimmed, Text.lined_iff.mp hlines]
      exact (if_neg htrimmed).symm
  have hfresh : Session.Faithful fresh fresh := .new _ _ _
  have hrun := Session.hold_run (Session.documented_of_check hcheck strict size) settings input
    (hfresh.after hfresh ops)
  rw [hquestions] at hrun
  exact hrun

/-- With "quit" as the command, a line with blanks around it ends the dialogue, and the line
behind it is not read. -/
theorem hold_exit_quit :
    let settings : Settings := { exitCommand := .text "quit" }
    let s := (Session.ofSettings settings none (some 2)).after [.evaluate "1+1"]
    ((hold settings "1/0\n quit \n2").run s).outcome = .ok ⟨0, "Enter an expression:\n" ++
        "Error: Cannot divide 1.0 by 0\n" ++ "Enter an expression:\n"⟩ ∧
      ((hold settings "1/0\n quit \n2").run s).state = s.after [.evaluate "1/0"] := by
  have hlines : Text.Lined ["1/0", " quit ", "2"] "1/0\n quit \n2" :=
    Text.lined_iff.mpr (by decide)
  obtain ⟨houtcome, hstate⟩ :=
    hold_exit "quit" (by decide +kernel) none (some 2) [.evaluate "1+1"] hlines
  exact ⟨houtcome.trans (by decide +kernel), hstate⟩

/-- A command with blanks around it passes the check, and a dialogue goes on behind the very
line that it is: the line is evaluated and found faulty, and so is the next one evaluated. -/
theorem hold_passes_padded_command :
    let settings : Settings := { exitCommand := .text " end " }
    let ran := (hold settings " end \n1+1\n").run (Session.ofSettings settings none none)
    settings.check = .ok () ∧ Text.Lined [" end ", "1+1"] " end \n1+1\n" ∧
      ran.state.misses = 2 ∧
      ran.outcome = .ok ⟨1, "Enter an expression:\n" ++
        "Error: Invalid token 'e' at offset 0\n" ++ "Enter an expression:\n" ++ "2\n" ++
        "Enter an expression:\n"⟩ := by
  refine ⟨by decide +kernel, Text.lined_iff.mpr (by decide), by decide +kernel, ?_⟩
  decide +kernel

end Dialogue

end Reckoner
