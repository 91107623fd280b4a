import Mathlib.Logic.Function.Iterate
import Reckoner.Dialogue
import Reckoner.Proofs.Calculator
import Reckoner.Proofs.SessionLogs

/-!
# The faults of expressions (nothing else goes wrong)

A parser can be asked for a token that is not there, a token that is no operator looked
up as one, a value taken from an empty stack. None of this comes of a text: evaluating
one gives a number, or fails because the text holds what is no token, because a token
does not belong where it stands, or because of a division by zero. What goes on after
such faults, a batch that reports them and a dialogue, therefore never fails.

* `Scan.documented_of_parse`: parsing fails for the tokens of the text only.
* `Node.Grouped.evaluate_error`: a parsed tree has the operators it needs, and values
  enough for them, so that only a division can fail.
* `Lexer.Bounded`: no lexer looks behind the end of its source.
* `faults_documented`: all of this after any run of a session.
-/

namespace Reckoner

/-- The fault is one that the text of an expression can be to blame for: a token, the
grammar, or a division by zero. -/
def Fault.Documented (e : Fault) : Prop :=
  e.family = .lexical ∨ e.family = .grammatical ∨ e.family = .division

/-- Such faults are reported under a label. -/
theorem Fault.Documented.label? {e : Fault} (h : e.Documented) :
    ∃ label, e.label? = some label := by
  unfold Fault.label?
  rcases h with h | h | h <;> rw [h] <;> exact ⟨_, rfl⟩

/-! ## Parsing -/

namespace Verdict

/-- If the verdict is a failure, it is the fault of a token. -/
def OfTokens : Verdict → Prop
  | .failed family _ => family = .lexical ∨ family = .grammatical
  | _ => True

theorem ofTokens_pulling {tokens : List Token} {onward : Verdict} (h : onward.OfTokens) :
    (pulling tokens onward).OfTokens := by
  unfold pulling
  split
  · split
    · exact .inl rfl
    · exact h
  · exact h

/-- A pass over tokens fails for one of them only. -/
theorem ofTokens_onTokens (source : Text) (strict : Bool) (expectation : Expectation)
    (tokens : List Token) : (onTokens source strict expectation tokens).OfTokens := by
  induction tokens generalizing expectation with
  | nil => cases expectation <;> trivial
  | cons t rest ih =>
      -- a number is refused, or the pass goes on behind it
      have hnumber : (if t.text source = "." then lexical t
          else onTokens source strict .operator rest).OfTokens := by
        split
        · exact .inl rfl
        · exact ih .operator
      cases expectation with
      | operand =>
          rw [onTokens]
          split
          · trivial
          · exact ofTokens_pulling hnumber
          · exact ofTokens_pulling (ih .magnitude)
          · exact .inr rfl
      | magnitude =>
          rw [onTokens]
          split
          · trivial
          · exact ofTokens_pulling hnumber
          · exact .inr rfl
      | operator =>
          rw [onTokens]
          split
          · trivial
          iterate 5 exact ofTokens_pulling (ih .operand)
          · split
            · exact .inr rfl
            · trivial

end Verdict

/-- Parsing a text fails for one of its tokens only. -/
theorem Scan.documented_of_parse {source : Text} {strict : Bool} {e : Fault}
    (h : Scan.parse source strict = .error e) : e.Documented := by
  have hverdict : (Verdict.onSource strict source).OfTokens := by
    unfold Verdict.onSource
    refine Verdict.ofTokens_pulling ?_
    split
    · trivial
    · exact Verdict.ofTokens_onTokens source strict .operand _
  rw [← ofOutcome_parse, h] at hverdict
  rcases hverdict with hfamily | hfamily
  · exact .inl hfamily
  · exact .inr (.inl hfamily)

/-! ## Evaluating -/

/-- A binary operator fails if it divides by zero. -/
theorem Operator.compute_error {o : Operator} (ho : o.isBinary = true) {left right : Float}
    {e : Fault} (h : o.compute left right = .error e) : e.Documented := by
  unfold compute at h
  split at h
  · cases h
  · cases h
  · cases h
  · split at h
    · cases h
      exact .inr (.inr rfl)
    · cases h
  · cases h
  · cases ho

/-- The value of a grouped tree is missing only if there is a division by zero in it: it
has the operators it needs, and every operator finds its operands. -/
theorem Node.Grouped.evaluate_error {n : Node} (hn : n.Grouped) {e : Fault}
    (h : n.evaluate = .error e) : e.Documented := by
  unfold Node.evaluate Node.evaluateWith at h
  rw [Visitor.visit_eq_fold] at h
  induction hn with
  | operand hn => cases hn <;> cases h
  | binary ho _ _ _ _ ihleft ihright =>
      rw [Calculator.fold_binary _ _ _ ho] at h
      rcases bind_eq_error h with hleft | ⟨a, -, h⟩
      · exact ihleft hleft
      · rcases bind_eq_error h with hright | ⟨b, -, h⟩
        · exact ihright hright
        · exact Operator.compute_error ho h

/-! ## Reading -/

/-- The cursor is held to the end of its source, so that no character behind it is ever
asked for. -/
def Lexer.Bounded (l : Lexer) : Prop :=
  l.limit = l.source.length

/-- However many tokens are taken off a source, the cursor is held to its end. -/
theorem Lexer.bounded_iterate (source : Text) (n : Nat) :
    ((fun l : Lexer => l.next.2)^[n] (ofText source)).Bounded := by
  induction n with
  | zero => rfl
  | succ n ih =>
      rw [Function.iterate_succ_apply']
      unfold Bounded
      rw [next_limit, next_source]
      exact ih

theorem Parser.bounded_parse (source : Text) (p : Parser) :
    ((Parser.parse source).run p).state.lexer.Bounded := by
  have hsetting := setting_parse source p
  unfold Parser.setting at hsetting
  rw [Prod.mk.injEq, Prod.mk.injEq] at hsetting
  obtain ⟨-, hsource, hlimit⟩ := hsetting
  unfold Lexer.Bounded
  rw [hsource, hlimit]

namespace Session

variable {fresh : Session}

/-- What a source comes to is a number or the fault of the source, if the settings have a
value for the empty expression and results can be kept. -/
theorem appraisal_error {x : Float} (hempty : fresh.emptyResult = .ok x)
    (husable : fresh.limit.usable = .ok ()) {source : Text} {e : Fault}
    (h : appraisal fresh source = .error e) : e.Documented := by
  rcases bind_eq_error h with hparse | ⟨tree, hparse, h⟩
  · exact Scan.documented_of_parse hparse
  · rcases bind_eq_error h with hvalue | ⟨y, -, h⟩
    · cases tree with
      | none =>
          rw [Tree.evaluate, hempty] at hvalue
          cases hvalue
      | some root =>
          obtain ⟨rest, -, hsubtree, -⟩ := Scan.parse_eq_ok source hparse
          exact (Scan.subtree_grouped source hsubtree).evaluate_error hvalue
    · rw [husable] at h
      cases h

/-! ## Runs -/

theorem parser_remember (source : Text) (x : Float) (s : Session) :
    ((remember source x).run s).state.parser = s.parser := by
  unfold remember
  rw [Action.run_of]
  split
  · rfl
  · rfl
  · dsimp only
    split <;> rfl

/-- Only parsing moves the lexer. -/
theorem bounded_evaluate {s : Session} (h : s.parser.lexer.Bounded) (source : Text) :
    ((evaluate source).run s).state.parser.lexer.Bounded := by
  have hparsed := Parser.bounded_parse source s.parser
  cases hget : s.cache.get? source with
  | some x =>
      rw [evaluate_of_kept hget]
      exact h
  | none =>
      rcases evaluate_run_of_unkept hget with ⟨e, -, hstate⟩ | ⟨x, -, hstate⟩
      · rw [hstate]
        exact hparsed
      · rw [hstate, parser_remember]
        exact hparsed

/-- No operation makes the lexer look behind its source. -/
theorem bounded_carried : Carried fun s _ => s.parser.lexer.Bounded where
  evaluate source h := bounded_evaluate h source
  parse source _ := Parser.bounded_parse source _
  clear h := h

/-- The answer to a line whose text comes to the given outcome. -/
def answerOf : Except Fault Float → Reckoner.Answer
  | .ok x => .result x
  | .error e => .failure e

/-- The row of a source in a batch that reports faults. -/
def rowAlone (fresh : Session) (source : Text) : Row :=
  match appraisal fresh source with
  | .ok x => ⟨source, x, none⟩
  | .error e => ⟨source, noResult, some (e.label?.getD [] ++ ": " ++ e.message)⟩

section

variable (hdocumented : ∀ source e, appraisal fresh source = .error e → e.Documented)

include hdocumented

/-- Every line of a dialogue is answered. -/
theorem comesTo_answer (line : Text) :
    ComesTo fresh (Dialogue.answer line) (.ok (answerOf (appraisal fresh line))) := by
  unfold Dialogue.answer
  refine (comesTo_evaluate fresh line).attempt.bind (g := fun _ => _) fun outcome houtcome => ?_
  cases houtcome
  cases hline : appraisal fresh line with
  | ok x => exact .pure _
  | error e =>
      obtain ⟨label, hlabel⟩ := (hdocumented line e hline).label?
      simp only [hlabel, Option.isSome_some, if_true]
      exact .pure _

/-- Lines are answered as each of them is alone. -/
theorem comesTo_answers (lines : List Text) : ComesTo fresh (lines.mapM Dialogue.answer)
    (.ok (lines.map fun line => answerOf (appraisal fresh line))) := by
  have hlines := ComesTo.mapM (comesTo_answer hdocumented) lines
  rw [show (lines.mapM fun line => Except.ok (answerOf (appraisal fresh line))) = .ok _ from
    List.mapM_pure] at hlines
  exact hlines

/-- A dialogue comes to its end, whatever is typed. -/
theorem hold_ok (settings : Settings) (input : Text) {s : Session} (hs : Faithful fresh s) :
    ∃ transcript, ((Dialogue.hold settings input).run s).outcome = .ok transcript := by
  unfold Dialogue.hold
  rw [Action.run_bind_ok (comesTo_answers hdocumented _ s hs).1]
  exact ⟨_, rfl⟩

theorem rowOf_coerce (source : Text) :
    rowOf .coerce source (appraisal fresh source) = .ok (rowAlone fresh source) := by
  unfold rowAlone
  cases h : appraisal fresh source with
  | ok x => rfl
  | error e =>
      obtain ⟨label, hlabel⟩ := (hdocumented source e h).label?
      simp only [rowOf, hlabel]
      rfl

/-- The table of a batch that reports faults has the row that each source has alone. -/
theorem tableAlone_coerce (hfresh : Faithful fresh fresh) (sources : List Text) :
    ∃ labels, tableAlone fresh sources "coerce" none =
      .ok ⟨labels, sources.map (rowAlone fresh)⟩ := by
  have hrows : sources.mapM (fun source =>
      rowOf .coerce source ((evaluate source).run fresh).outcome) =
        .ok (sources.map (rowAlone fresh)) := by
    simp only [(comesTo_evaluate fresh _ fresh hfresh).1, rowOf_coerce hdocumented]
    exact List.mapM_pure
  unfold tableAlone
  rw [show ErrorMode.ofName "coerce" = .ok .coerce from rfl]
  show ∃ labels, (sources.mapM _ >>= _) = Except.ok _
  rw [hrows]
  exact ⟨_, rfl⟩

/-- A batch that reports faults has a row for every source, whatever is in it. -/
theorem evaluateMany_coerce_ok (hfresh : Faithful fresh fresh) (sources : List Text)
    {s : Session} (hs : Faithful fresh s) :
    ∃ t, ((evaluateMany sources "coerce" none).run s).outcome = .ok t := by
  obtain ⟨labels, htable⟩ := tableAlone_coerce hdocumented hfresh sources
  rw [(comesTo_evaluateMany hfresh sources "coerce" none s hs).1, htable]
  exact ⟨_, rfl⟩

end

/-- After any run of a session with a float as the value of empty expressions, evaluating a
text gives a number or fails for one of the documented reasons, and no lexer looks behind
the end of its source. So batches that report faults and dialogues never fail. -/
theorem faults_documented (emptyResult : Float) (strict : Option Bool) (size : Option Int)
    (ops : List Operation) :
    let settings : Settings := { emptyResult := .float emptyResult }
    let s := (ofSettings settings strict size).after ops
    (∀ source, (∃ x, ((evaluate source).run s).outcome = .ok x) ∨
        ∃ e, ((evaluate source).run s).outcome = .error e ∧
          (e.family = .lexical ∨ e.family = .grammatical ∨ e.family = .division)) ∧
      s.parser.lexer.Bounded ∧
      (∀ source n, ((fun l : Lexer => l.next.2)^[n] (s.parser.lexer.reset source)).Bounded) ∧
      (∀ sources, ∃ table, ((evaluateMany sources "coerce" none).run s).outcome = .ok table) ∧
      ∀ input, ∃ transcript,
        ((Dialogue.hold settings input).run s).outcome = .ok transcript := by
  intro settings s
  have hfresh : Faithful (ofSettings settings strict size) (ofSettings settings strict size) :=
    .new _ _ _
  have hs : Faithful (ofSettings settings strict size) s := hfresh.after hfresh ops
  have husable : (ofSettings settings strict size).limit.usable = .ok () := by
    have hinteger (n : Int) : (Limit.ofInt n).usable = .ok () := by
      unfold Limit.ofInt
      split <;> rfl
    cases size with
    | none => exact hinteger 1000
    | some n => exact hinteger n
  have hdocumented (source : Text) (e : Fault)
      (h : appraisal (ofSettings settings strict size) source = .error e) : e.Documented :=
    appraisal_error rfl husable h
  refine ⟨fun source => ?_, ?_, fun source n => Lexer.bounded_iterate source n, ?_, ?_⟩
  · rw [(comesTo_evaluate _ source s hs).1]
    cases h : appraisal (ofSettings settings strict size) source with
    | ok x => exact .inl ⟨x, rfl⟩
    | error e => exact .inr ⟨e, rfl, hdocumented source e h⟩
  · exact @Carried.after _ bounded_carried (ofSettings settings strict size) [] ops rfl
  · exact fun sources => evaluateMany_coerce_ok hdocumented hfresh sources hs
  · exact fun input => hold_ok hdocumented settings input hs

end Session

end Reckoner
