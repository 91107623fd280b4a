import Reckoner.CommandLine.Run
import Reckoner.Proofs.CheckedSettings

/-!
# Dialogues (what a reader is shown)

The reply to a line is what evaluating the line alone comes to (`Dialogue.Reply`), whatever
has been typed before and whatever the cache holds. It is also what the program shows if it
is run on the line alone. A dialogue shows a prompt and a reply for each line up to the exit
command, and a last prompt.

* `Dialogue.Reply.unique`: the reply to a line is determined by the line.
* `Dialogue.Reply.runSingle_eq`: the reply is what the program shows of the line alone.
* `Session.state_answers`: answering lines leaves the session that evaluating them leaves, by
  induction; the invariant is `Session.Faithful`.
* `Session.hold_run`: a dialogue in terms of what its lines come to.
* `Dialogue.hold_transcript`: the same in terms of replies, from the first line to the last.
-/

namespace Reckoner

open CommandLine (runSingle logText)

/-- What is replied to a line, and whether it has a result: the result that it has in the
session `fresh`, or else what is wrong with it. Faults that no expression is to blame for are
not replied. -/
inductive Dialogue.Reply (fresh : Session) (line : Text) : Bool → Text → Prop
  | result {x : Float} : ((Session.evaluate line).run fresh).outcome = .ok x →
      Reply fresh line true (Text.ofResult x ++ ['\n'])
  | failure {e : Fault} {label : Text} :
      ((Session.evaluate line).run fresh).outcome = .error e → e.label? = some label →
      Reply fresh line false (e.message ++ ['\n'])

/-- What a line comes to, as the program shows it. -/
def Dialogue.shown : Except Fault Float → Text
  | .ok x => Text.ofResult x ++ ['\n']
  | .error e => e.message ++ ['\n']

/-- An answer is shown as what it answers, behind "Error: " if that is no result. -/
theorem Session.line_answerOf (outcome : Except Fault Float) : (answerOf outcome).line =
    if outcome.isOk then Dialogue.shown outcome else "Error: " ++ Dialogue.shown outcome := by
  cases outcome with
  | ok x => rfl
  | error e => exact List.append_assoc _ _ _

theorem Session.isResult_answerOf (outcome : Except Fault Float) :
    (answerOf outcome).isResult = outcome.isOk := by
  cases outcome <;> rfl

namespace Dialogue.Reply

variable {fresh : Session} {line shown : Text} {succeeds : Bool}

/-- There is one reply to a line. -/
theorem unique {shown' : Text} {succeeds' : Bool} (h : Reply fresh line succeeds shown)
    (h' : Reply fresh line succeeds' shown') : succeeds = succeeds' ∧ shown = shown' := by
  cases h with
  | result hx =>
      cases h' with
      | result hx' =>
          cases hx.symm.trans hx'
          exact ⟨rfl, rfl⟩
      | failure he' _ => cases hx.symm.trans he'
  | failure he _ =>
      cases h' with
      | result hx' => cases he.symm.trans hx'
      | failure he' _ =>
          cases he.symm.trans he'
          exact ⟨rfl, rfl⟩

/-- Run on a line alone, the program shows the reply, and succeeds or fails accordingly. What
is wrong with the line stands behind the log. -/
theorem runSingle_eq (h : Reply fresh line succeeds shown) (least : Nat) :
    let log := logText least ((Session.evaluate line).run fresh).events
    runSingle fresh least line =
      .ok (if succeeds then ⟨0, .inl shown, log, []⟩ else ⟨1, .inl [], log ++ shown, []⟩) := by
  intro log
  cases h with
  | result hx =>
      simp only [runSingle, hx]
      rfl
  | failure he hlabel =>
      simp only [runSingle, he, hlabel, List.append_assoc]
      rfl

end Dialogue.Reply

namespace Session

variable {fresh : Session}
  (hdocumented : ∀ source e, appraisal fresh source = .error e → e.Documented)

theorem after_evaluate (s : Session) (source : Text) :
    s.after [.evaluate source] = ((evaluate source).run s).state :=
  state_bind_of_keeps (fun x => .pure (Answer.number x)) s

theorem state_answer (line : Text) (s : Session) :
    ((Dialogue.answer line).run s).state = s.after [.evaluate line] := by
  have hattempt : ((evaluate line).attempt.run s).outcome =
      .ok ((evaluate line).run s).outcome := rfl
  rw [after_evaluate]
  unfold Dialogue.answer
  rw [Action.run_bind_ok hattempt]
  cases ((evaluate line).run s).outcome with
  | ok x => rfl
  | error fault =>
      dsimp only
      split <;> rfl

include hdocumented

/-- Lines that are answered leave what evaluating them in order leaves. No line ends the
dialogue, so that the induction goes on behind each of them. -/
theorem state_answers (lines : List Text) {s : Session} (hs : Faithful fresh s) :
    ((lines.mapM Dialogue.answer).run s).state = s.after (lines.map .evaluate) := by
  induction lines generalizing s with
  | nil => rfl
  | cons line lines ih =>
      obtain ⟨hanswer, hleft⟩ := comesTo_answer hdocumented line s hs
      rw [List.mapM_cons, Action.run_bind_ok hanswer, state_bind_of_keeps fun _ => .pure _,
        ih hleft, state_answer]
      rfl

/-- A dialogue shows the answers between prompts, and leaves what evaluating the lines that it
answers leaves. -/
theorem hold_run (settings : Settings) (input : Text) {s : Session} (hs : Faithful fresh s) :
    let asked := Dialogue.questions settings input
    let answers := asked.map fun line => answerOf (appraisal fresh line)
    let prompt := settings.prompt.shown ++ ['\n']
    ((Dialogue.hold settings input).run s).outcome =
        .ok ⟨answers.countP (·.isResult), answers.flatMap (fun a => prompt ++ a.line) ++ prompt⟩ ∧
      ((Dialogue.hold settings input).run s).state = s.after (asked.map .evaluate) := by
  intro asked answers prompt
  unfold Dialogue.hold
  constructor
  · rw [Action.run_bind_ok (comesTo_answers hdocumented asked s hs).1]
    rfl
  · rw [state_bind_of_keeps fun answers => ?_]
    · exact state_answers hdocumented asked hs
    · exact .bind (.report _) fun _ => .pure _

/-- The reply to a line is what it comes to. -/
theorem reply_appraisal (hfresh : Faithful fresh fresh) (line : Text) :
    Dialogue.Reply fresh line (appraisal fresh line).isOk
      (Dialogue.shown (appraisal fresh line)) := by
  have houtcome := (comesTo_evaluate fresh line fresh hfresh).1
  cases happraisal : appraisal fresh line with
  | ok x => exact .result (houtcome.trans happraisal)
  | error e =>
      obtain ⟨label, hlabel⟩ := (hdocumented line e happraisal).label?
      exact .failure (houtcome.trans happraisal) hlabel

end Session

namespace Dialogue

/-- With the usual exit command and result format, a dialogue in a session that has done
anything before shows a prompt and the reply to each line before the first "end", and a last
prompt. The reply is that of a new session, as the program shows it if it is run on the line
alone. The dialogue counts the lines that have a result, and leaves the session that
evaluating these lines one after the other leaves. A blank line has a result. -/
theorem hold_transcript (settings : Settings) (hcheck : settings.check = .ok ())
    (husual : settings.exitCommand = .text "end" ∧ settings.resultFormat = .text "\x7b:.10g\x7d")
    (strict : Option Bool) (size : Option Int) (ops : List Session.Operation)
    {lines : List Text} {input : Text} (hlines : Text.Lined lines input) :
    let fresh := fun size' => Session.ofSettings settings strict size'
    let s := (fresh size).after ops
    let asked := (lines.map Text.trim).takeWhile (· ≠ ("end" : Text))
    let prompt := settings.prompt.shown ++ ['\n']
    ∃ (succeeds : Text → Bool) (reply : Text → Text),
      (∀ size' line, Reply (fresh size') line (succeeds line) (reply line)) ∧
      (∀ size' line least,
        let log := logText least ((Session.evaluate line).run (fresh size')).events
        runSingle (fresh size') least line =
          .ok (if succeeds line then ⟨0, .inl (reply line), log, []⟩
            else ⟨1, .inl [], log ++ reply line, []⟩)) ∧
      ((hold settings input).run s).outcome =
        .ok ⟨asked.countP succeeds, asked.flatMap (fun line => prompt ++
          if succeeds line then reply line else "Error: " ++ reply line) ++ prompt⟩ ∧
      ((hold settings input).run s).state = s.after (asked.map .evaluate) ∧
      succeeds [] = true ∧
      ∀ x, settings.emptyResult = .float x → reply [] = Text.ofResult x ++ ['\n'] := by
  intro fresh s asked prompt
  have hfresh (size' : Option Int) : Session.Faithful (fresh size') (fresh size') := .new _ _ _
  have hdocumented := Session.documented_of_check hcheck strict
  have hquestions : questions settings input = asked := by
    unfold questions
    rw [Text.lined_iff.mp hlines]
    congr 1
    funext line
    simp [Settings.isExit, husual.1, eq_comm]
  obtain ⟨houtcome, hstate⟩ := Session.hold_run (hdocumented size) settings input
    ((hfresh size).after (hfresh size) ops)
  rw [hquestions] at houtcome hstate
  let comesTo (line : Text) : Except Fault Float := Session.appraisal (fresh size) line
  -- how many results are kept has no bearing on a line alone
  have hreply (size' : Option Int) (line : Text) :
      Reply (fresh size') line (comesTo line).isOk (shown (comesTo line)) := by
    simp only [comesTo, fresh, Session.appraisal_of_check hcheck strict size size']
    exact Session.reply_appraisal (hdocumented size') (hfresh size') line
  refine ⟨fun line => (comesTo line).isOk, fun line => shown (comesTo line), hreply,
    fun size' line least => (hreply size' line).runSingle_eq least, ?_, hstate, ?_⟩
  · simp only [List.countP_map, List.flatMap_map, Session.line_answerOf] at houtcome
    simp only [Function.comp_def, Session.isResult_answerOf] at houtcome
    exact houtcome
  · obtain ⟨x, hx⟩ := (Settings.check_elim hcheck).2
    have hblank {y : Float} (hy : settings.emptyResult = .float y) : comesTo [] = .ok y :=
      Session.appraisal_nil_of_check hcheck strict size hy
    exact ⟨by simp only [hblank hx]; rfl, fun y hy => by simp only [hblank hy]; rfl⟩

/-- With default settings, a result, a fault, a blank line and the exit command are typed,
and the last line has no end. -/
theorem hold_transcript_four :
    let fresh := fun size' => Session.ofSettings {} none size'
    let s := (fresh (some 2)).after [.evaluate "1+1", .clear]
    let asked : List Text := ["1+1", "1/0", ""]
    let prompt : Text := "Enter an expression:\n"
    ∃ (succeeds : Text → Bool) (reply : Text → Text),
      (∀ size' line, Reply (fresh size') line (succeeds line) (reply line)) ∧
      (∀ size' line least,
        let log := logText least ((Session.evaluate line).run (fresh size')).events
        runSingle (fresh size') least line =
          .ok (if succeeds line then ⟨0, .inl (reply line), log, []⟩
            else ⟨1, .inl [], log ++ reply line, []⟩)) ∧
      ((hold {} " 1+1 \n1/0\n\nend\n2").run s).outcome =
        .ok ⟨asked.countP succeeds, asked.flatMap (fun line => prompt ++
          if succeeds line then reply line else "Error: " ++ reply line) ++ prompt⟩ ∧
      ((hold {} " 1+1 \n1/0\n\nend\n2").run s).state = s.after (asked.map .evaluate) ∧
      succeeds [] = true ∧
      ∀ x, ({} : Settings).emptyResult = .float x → reply [] = Text.ofResult x ++ ['\n'] := by
  have hlines : Text.Lined [" 1+1 ", "1/0", "", "end", "2"] " 1+1 \n1/0\n\nend\n2" :=
    Text.lined_iff.mpr (by decide)
  have hasked : (([" 1+1 ", "1/0", "", "end", "2"] : List Text).map Text.trim).takeWhile
      (· ≠ ("end" : Text)) = (["1+1", "1/0", ""] : List Text) := by
    decide +kernel
  have htranscript := hold_transcript {} (by decide +kernel) ⟨rfl, rfl⟩ none (some 2)
    [.evaluate "1+1", .clear] hlines
  simp only [hasked] at htranscript
  exact htranscript

end Dialogue

end Reckoner
