import Reckoner.Proofs.Numerals
import Reckoner.Proofs.Readings

/-!
# Verdicts (which sources parse, and where the others fail)

Whether a source parses is settled by one pass over its significant tokens with three
states and no memory: before an operand, behind a minus sign, and behind an operand. The
levels of the grammar leave no trace in the verdict.

The scan of the flat grammar is compared with the pass piece by piece: `judge` hands
what a piece leaves over to the rest of the pass, and a fault ends both.

* `judge_operand`, `judge_links`: an operand takes the pass from before an operand to
  behind it, and links take it on to the end.
* `verdict_parse`: the outcome of parsing is the verdict, for every source and every
  state of the parser.
-/

namespace Reckoner

/-- What parsing comes to, the tree left aside. -/
inductive Verdict where
  /-- There is nothing to parse. -/
  | empty
  /-- There is an expression. -/
  | accepted
  /-- There is a fault of a family, tied to a place or not. -/
  | failed (family : Fault.Family) (offset : Option Int)
  deriving DecidableEq, Repr

/-- What a pass over tokens is waiting for. -/
inductive Expectation where
  | operand
  /-- A number behind a minus sign. -/
  | magnitude
  /-- An operator, or the end. -/
  | operator
  deriving DecidableEq, Repr

namespace Verdict

/-- The verdict on an outcome of parsing. -/
def ofOutcome : Except Fault Tree → Verdict
  | .ok none => .empty
  | .ok (some _) => .accepted
  | .error e => .failed e.family e.offset?

/-- The token is not one that a source may hold. -/
def lexical (t : Token) : Verdict :=
  .failed .lexical (some t.start)

/-- The token does not belong where it stands. -/
def grammatical (t : Token) : Verdict :=
  .failed .grammatical (some t.start)

/-- Pull the first of the given tokens before going on. -/
def pulling (tokens : List Token) (onward : Verdict) : Verdict :=
  match tokens with
  | t :: _ => if t.kind = .unknown then lexical t else onward
  | [] => onward

/-- Pass over the tokens, the first of which has been pulled. The end token comes last,
so there always is a first one. -/
def onTokens (source : Text) (strict : Bool) : Expectation → List Token → Verdict
  | _, [] => .accepted
  | .operand, t :: rest =>
    match t.kind with
    | .eof => .accepted
    | .number =>
      pulling rest <|
        if t.text source = "." then lexical t else onTokens source strict .operator rest
    | .minus => pulling rest (onTokens source strict .magnitude rest)
    | _ => grammatical t
  | .magnitude, t :: rest =>
    match t.kind with
    | .eof => .accepted
    | .number =>
      pulling rest <|
        if t.text source = "." then lexical t else onTokens source strict .operator rest
    | _ => grammatical t
  | .operator, t :: rest =>
    match t.kind with
    | .eof => .accepted
    | .plus | .minus | .times | .slash | .caret =>
      pulling rest (onTokens source strict .operand rest)
    | _ => if strict then grammatical t else .accepted

/-- The verdict on a source. -/
def onSource (strict : Bool) (source : Text) : Verdict :=
  pulling (Token.significant source) <|
    if (Token.significant source).head?.map (·.kind) = some .eof then .empty
    else onTokens source strict .operand (Token.significant source)

/-- The verdict on two steps, given the verdict on what the first one leaves. -/
def judge {α : Type} (x : Except Fault α) (onward : α → Verdict) : Verdict :=
  match x with
  | .ok a => onward a
  | .error e => .failed e.family e.offset?

theorem judge_bind {α β : Type} (x : Except Fault α) (f : α → Except Fault β)
    (onward : β → Verdict) : judge (x >>= f) onward = judge x fun a => judge (f a) onward := by
  cases x <;> rfl

theorem judge_map {α β : Type} (x : Except Fault α) (f : α → β) (onward : β → Verdict) :
    judge (x.map f) onward = judge x fun a => onward (f a) := by
  cases x <;> rfl

end Verdict

/-! ## The scan and the pass, piece by piece -/

/-- Behind a token that is not the end there are others. -/
theorem Token.rest_ne_nil {source : Text} {t : Token} {rest : List Token}
    (hsuffix : t :: rest <:+ significant source) (ht : t.kind ≠ .eof) : rest ≠ [] := by
  obtain ⟨before, hbefore⟩ := hsuffix
  intro hnil
  exact ht (((Lexer.ofText source).significants_behind hbefore.symm).mp hnil)

namespace Scan

open Verdict

variable {source : Text} {strict : Bool} {tokens : List Token}

theorem judge_pull (hne : tokens ≠ []) (onward : List Token → Verdict) :
    judge (pull source tokens) onward = pulling tokens (onward tokens) := by
  cases tokens with
  | nil => exact absurd rfl hne
  | cons t rest =>
      show judge (if t.kind = .unknown then _ else _) onward =
        if t.kind = .unknown then _ else _
      split <;> rfl

/-- A number token is refused if it is a lone point, and only then. -/
theorem judge_numeral {t : Token} (ht : t.kind = .number) (hlegible : t.Legible source)
    (onward : Verdict) :
    judge (numeral source t) (fun _ => onward) =
      if t.text source = "." then lexical t else onward := by
  obtain ⟨-, hne, hrun, hpoints⟩ := hlegible ht
  have hread := Number.read?_run_eq_none_iff hrun hpoints hne
  unfold numeral
  by_cases hpoint : t.text source = "."
  · rw [if_pos hpoint, hread.mpr hpoint]
    rfl
  · rw [if_neg hpoint]
    cases hx : Number.read? (t.text source) with
    | none => exact absurd (hread.mp hx) hpoint
    | some x => rfl

/-- A number takes the pass from behind a minus sign to behind an operand. -/
theorem judge_literal (node : Float → Node) (hsuffix : tokens <:+ Token.significant source)
    (hne : tokens ≠ []) :
    judge (literal source node tokens) (fun r => onTokens source strict .operator r.2) =
      onTokens source strict .magnitude tokens := by
  cases tokens with
  | nil => exact absurd rfl hne
  | cons t rest =>
      by_cases heof : t.kind = .eof
      · rw [literal_of_eof source heof]
        simp [judge, onTokens, heof]
      · by_cases hnumber : t.kind = .number
        · -- first the token behind the number is pulled, then the number is read
          have hlegible : t.Legible source :=
            (Lexer.ofText source).significants_legible t (hsuffix.subset List.mem_cons_self)
          rw [literal_of_number source hnumber, judge_bind,
            judge_pull (Token.rest_ne_nil hsuffix heof), judge_bind]
          show pulling rest
            (judge (numeral source t) fun _ => onTokens source strict .operator rest) = _
          rw [judge_numeral hnumber hlegible, onTokens, hnumber]
        · rw [literal_of_ne source heof hnumber]
          show grammatical t = _
          rw [onTokens]
          split <;> first | contradiction | rfl

/-- An operand takes the pass from before an operand to behind it. -/
theorem judge_operand (hsuffix : tokens <:+ Token.significant source) (hne : tokens ≠ []) :
    judge (operand source tokens) (fun r => onTokens source strict .operator r.2) =
      onTokens source strict .operand tokens := by
  cases tokens with
  | nil => exact absurd rfl hne
  | cons t rest =>
      by_cases hminus : t.kind = .minus
      · have hrest : rest ≠ [] := Token.rest_ne_nil hsuffix (by rw [hminus]; decide)
        rw [operand_of_minus source hminus, judge_bind, judge_pull hrest,
          judge_literal negative ((List.suffix_cons t rest).trans hsuffix) hrest, onTokens, hminus]
      · rw [operand_of_ne_minus source hminus, judge_literal .value hsuffix hne, onTokens, onTokens]
        cases hkind : t.kind <;> first | rfl | exact absurd hkind hminus

theorem judge_operandBehind (hsuffix : tokens <:+ Token.significant source) (hne : tokens ≠ []) :
    judge (operandBehind source tokens) (fun r => onTokens source strict .operator r.2) =
      pulling tokens (onTokens source strict .operand tokens) := by
  unfold operandBehind
  rw [judge_bind, judge_pull hne, judge_operand hsuffix hne]

/-- Behind an operand, the pass pulls what follows an operator. -/
theorem onTokens_operator {t : Token} {rest : List Token} {o : Operator}
    (ho : Operator.ofKind? t.kind = some o) :
    onTokens source strict .operator (t :: rest) =
      pulling rest (onTokens source strict .operand rest) := by
  rw [onTokens]
  cases hkind : t.kind <;> first | rfl | (rw [hkind] at ho; cases ho)

/-- Behind an operand, the pass ends at what is no operator. -/
theorem judge_finish {t : Token} {rest : List Token} (hnone : Operator.ofKind? t.kind = none) :
    judge (finish source strict (t :: rest)) (fun _ => .accepted) =
      onTokens source strict .operator (t :: rest) := by
  rw [onTokens, finish]
  cases hkind : t.kind <;> rw [hkind] at hnone <;> cases hnone <;> cases strict <;> rfl

/-- Links take the pass from behind an operand to the end. The induction follows the
loop of the links; an operator and the operand behind it are one round of it. -/
theorem judge_links (hsuffix : tokens <:+ Token.significant source) :
    judge (links source 1 tokens)
        (fun r => judge (finish source strict r.2) fun _ => .accepted) =
      onTokens source strict .operator tokens := by
  -- the rank is made a variable, because the induction is over all arguments of the loop
  obtain ⟨least, hleast⟩ : ∃ least, least = 1 := ⟨1, rfl⟩
  rw [← hleast]
  -- what an operator and its operand come to, whether the operand is there or not
  have hround {t : Token} {rest : List Token} {o : Operator}
      (ho : Operator.ofKind? t.kind = some o) (hsuffix : t :: rest <:+ Token.significant source) :
      onTokens source strict .operator (t :: rest) =
        judge (operandBehind source rest) fun r => onTokens source strict .operator r.2 := by
    have hrest := Token.rest_ne_nil hsuffix (Operator.ne_eof_of_ofKind? ho)
    rw [onTokens_operator ho, judge_operandBehind ((List.suffix_cons t rest).trans hsuffix) hrest]
  fun_induction links source least tokens with
  | case1 => rfl
  | case2 t rest hnone => exact judge_finish hnone
  | case3 t rest o ho hlt =>
      -- no operator is looser than the sums
      have hpos := Operator.rank_pos_of_ofKind? ho
      omega
  | case4 t rest o ho hge e hbehind =>
      rw [hround ho hsuffix, hbehind]
      rfl
  | case5 t rest o ho hge x next hbehind ih =>
      have hrest := (List.suffix_cons t rest).trans hsuffix
      rw [hround ho hsuffix, hbehind, judge_map]
      have hfound := operand_found hrest (operandBehind_eq_ok hbehind).2
      exact ih (hfound.suffix.trans hrest)

/-- A whole expression takes the pass from the first operand to the end. -/
theorem judge_subtree (hsuffix : tokens <:+ Token.significant source) (hne : tokens ≠ []) :
    judge (subtree source 1 tokens)
        (fun r => judge (finish source strict r.2) fun _ => .accepted) =
      onTokens source strict .operand tokens := by
  rw [← judge_operand hsuffix hne]
  unfold subtree
  rw [judge_bind]
  cases hoperand : operand source tokens with
  | error e => rfl
  | ok r =>
      show judge ((links source 1 r.2).map _) _ = onTokens source strict .operator r.2
      rw [judge_map]
      exact judge_links ((operand_found hsuffix hoperand).suffix.trans hsuffix)

/-- The scan of a source comes to the verdict on it. -/
theorem ofOutcome_parse (source : Text) (strict : Bool) :
    ofOutcome (parse source strict) = onSource strict source := by
  have hjudge (x : Except Fault Tree) :
      ofOutcome x = judge x fun tree => if tree.isNone then .empty else .accepted := by
    rcases x with e | _ | n <;> rfl
  rw [hjudge]
  unfold parse onSource
  rw [judge_bind, judge_pull (Token.significant_ne_nil source)]
  by_cases heof : (Token.significant source).head?.map (·.kind) = some .eof
  · rw [if_pos heof, if_pos heof]
    rfl
  · rw [if_neg heof, if_neg heof,
      ← judge_subtree List.suffix_rfl (Token.significant_ne_nil source), judge_bind]
    refine congrArg (fun onward => pulling _ (judge _ onward)) (funext fun r => ?_)
    rw [judge_bind]
    rfl

end Scan

/-- The outcome of parsing a source is the verdict of the pass over its tokens: the same
sources parse, and the others fail with a fault of the same family at the same place. -/
theorem Parser.verdict_parse (p : Parser) (source : Text) :
    Verdict.ofOutcome ((Parser.parse source).run p).outcome =
      Verdict.onSource p.strict source := by
  rw [outcome_parse]
  exact Scan.ofOutcome_parse source p.strict

/-- The token behind a number is pulled before the number is read, so of two faults in a
row the second one is reported. -/
example : Verdict.onSource false "1+.?" = .failed .lexical (some 3) := by decide +kernel

end Reckoner
