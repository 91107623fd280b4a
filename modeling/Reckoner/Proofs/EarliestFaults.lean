import Reckoner.Proofs.Seams
import Reckoner.Proofs.Verdicts

/-!
# Earliest faults (a token is refused where no continuation could be accepted)

A token that does not belong where it stands is reported at the first character that makes the
source unacceptable. Cut off in front of it, the source parses; cut off behind that one
character, it fails whatever follows. The character settles what the token is, except that a
run of digits and points can go on, and then it is a number still or no token at all.

* `Verdict.Passes`: the pass goes over some tokens, and what it is waiting for behind them.
* `Verdict.exists_refused`: if the verdict is that a token does not belong, then the pass has
  gone over the tokens before it and refuses this one.
* `Verdict.Passes.onSource_front`, `Verdict.Passes.onSource_refused`: the verdicts on sources
  that begin with the same tokens, and then end, or go on with a token of a refused kind.
* `Token.exists_significant_cons`: which kinds the first token can have, given its first
  character.
* `Parser.parse_earliest`: both cuts of a source that fails.
-/

namespace Reckoner

/-- A token of this kind does not belong where the pass is waiting for something else. -/
def Expectation.Refuses (strict : Bool) : Expectation → TokenKind → Prop
  | .operand, k => k ≠ .eof ∧ k ≠ .number ∧ k ≠ .minus
  | .magnitude, k => k ≠ .eof ∧ k ≠ .number
  | .operator, k => strict = true ∧ k ≠ .eof ∧ Operator.ofKind? k = none

theorem Expectation.Refuses.ne_eof {strict : Bool} {x : Expectation} {k : TokenKind}
    (h : x.Refuses strict k) : k ≠ .eof := by
  cases x with
  | operand => exact h.1
  | magnitude => exact h.1
  | operator => exact h.2.1

namespace Verdict

/-! ## Going over tokens -/

/-- The pass, waiting for the first expectation, goes over a token and waits for the
second. -/
inductive Takes (source : Text) (t : Token) : Expectation → Expectation → Prop
  | number {x : Expectation} : x ≠ .operator → t.kind = .number → t.text source ≠ "." →
      Takes source t x .operator
  | minus : t.kind = .minus → Takes source t .operand .magnitude
  | operator {o : Operator} : Operator.ofKind? t.kind = some o →
      Takes source t .operator .operand

/-- The pass goes over tokens one after the other. -/
inductive Passes (source : Text) : Expectation → List Token → Expectation → Prop
  | nil (x : Expectation) : Passes source x [] x
  | cons {x y z : Expectation} {t : Token} {rest : List Token} : Takes source t x y →
      Passes source y rest z → Passes source x (t :: rest) z

variable {source : Text} {strict : Bool} {t : Token} {before rest : List Token}
  {x y : Expectation}

theorem Takes.kind_ne (h : Takes source t x y) : t.kind ≠ .eof ∧ t.kind ≠ .unknown := by
  cases h with
  | number _ hkind _ => rw [hkind]; decide
  | minus hkind => rw [hkind]; decide
  | operator ho =>
      constructor <;> intro hkind <;> rw [hkind] at ho <;> cases ho

theorem pulling_of_ne_unknown (ht : t.kind ≠ .unknown) (rest : List Token) (onward : Verdict) :
    pulling (t :: rest) onward = onward :=
  if_neg ht

/-- The token behind the one that the pass goes over is pulled first. -/
theorem Takes.onTokens_eq (h : Takes source t x y) (rest : List Token) :
    onTokens source strict x (t :: rest) = pulling rest (onTokens source strict y rest) := by
  cases h with
  | number hx hkind htext =>
      cases x with
      | operator => exact absurd rfl hx
      | operand => rw [onTokens, hkind]; simp only [if_neg htext]
      | magnitude => rw [onTokens, hkind]; simp only [if_neg htext]
  | minus hkind => rw [onTokens, hkind]
  | operator ho => exact Scan.onTokens_operator ho

theorem onTokens_of_refuses (h : x.Refuses strict t.kind) (rest : List Token) :
    onTokens source strict x (t :: rest) = grammatical t := by
  cases x with
  | operand =>
      obtain ⟨heof, hnumber, hminus⟩ := h
      rw [onTokens]
      split <;> first | contradiction | rfl
  | magnitude =>
      obtain ⟨heof, hnumber⟩ := h
      rw [onTokens]
      split <;> first | contradiction | rfl
  | operator =>
      obtain ⟨hstrict, heof, hnone⟩ := h
      rw [← Scan.judge_finish hnone, hstrict, Scan.finish, if_neg heof]
      rfl

theorem eq_of_pulling_eq_grammatical {tokens : List Token} {onward : Verdict} {off : Option Int}
    (h : pulling tokens onward = .failed .grammatical off) :
    onward = .failed .grammatical off := by
  unfold pulling at h
  split at h
  · split at h
    · cases h
    · exact h
  · exact h

/-- If the verdict is that some token does not belong, the first token is refused, or else the
pass goes over it. -/
theorem onTokens_eq_grammatical {off : Option Int}
    (h : onTokens source strict x (t :: rest) = .failed .grammatical off) :
    (x.Refuses strict t.kind ∧ off = some t.start) ∨ ∃ y, Takes source t x y := by
  have hnumber (hx : x ≠ .operator) (hkind : t.kind = .number)
      (h : pulling rest (if t.text source = "." then lexical t
        else onTokens source strict .operator rest) = .failed .grammatical off) :
      ∃ y, Takes source t x y := by
    have hread := eq_of_pulling_eq_grammatical h
    split at hread
    · cases hread
    · rename_i htext
      exact ⟨.operator, .number hx hkind htext⟩
  cases x with
  | operand =>
      rw [onTokens] at h
      split at h
      · cases h
      · rename_i hkind
        exact .inr (hnumber (by decide) hkind h)
      · rename_i hkind
        exact .inr ⟨.magnitude, .minus hkind⟩
      · cases h
        exact .inl ⟨⟨by assumption, by assumption, by assumption⟩, rfl⟩
  | magnitude =>
      rw [onTokens] at h
      split at h
      · cases h
      · rename_i hkind
        exact .inr (hnumber (by decide) hkind h)
      · cases h
        exact .inl ⟨⟨by assumption, by assumption⟩, rfl⟩
  | operator =>
      cases ho : Operator.ofKind? t.kind with
      | some o => exact .inr ⟨.operand, .operator ho⟩
      | none =>
          rw [← Scan.judge_finish ho, Scan.finish] at h
          by_cases heof : t.kind = .eof
          · rw [if_pos heof] at h
            cases h
          · rw [if_neg heof] at h
            cases strict with
            | false => cases h
            | true =>
                cases h
                exact .inl ⟨⟨rfl, heof, ho⟩, rfl⟩

/-- If some token does not belong, the pass has gone over all tokens before it. The induction
follows the pass, which pulls every token before it looks at it. -/
theorem exists_refused {tokens : List Token} {off : Option Int}
    (h : pulling tokens (onTokens source strict x tokens) = .failed .grammatical off) :
    ∃ before t behind y, tokens = before ++ t :: behind ∧ Passes source x before y ∧
      y.Refuses strict t.kind ∧ t.kind ≠ .unknown ∧ off = some t.start := by
  induction tokens generalizing x with
  | nil => cases x <;> cases h
  | cons t rest ih =>
      by_cases hunknown : t.kind = .unknown
      · have hlexical : lexical t = .failed .grammatical off := (if_pos hunknown).symm.trans h
        cases hlexical
      rw [pulling_of_ne_unknown hunknown] at h
      rcases onTokens_eq_grammatical h with ⟨hrefuses, hoff⟩ | ⟨y, htakes⟩
      · exact ⟨[], t, rest, x, rfl, .nil x, hrefuses, hunknown, hoff⟩
      · rw [htakes.onTokens_eq] at h
        obtain ⟨before, u, behind, z, rfl, hpasses, hrefused⟩ := ih h
        exact ⟨t :: before, u, behind, z, rfl, .cons htakes hpasses, hrefused⟩

theorem exists_refused_onSource {off : Option Int}
    (h : onSource strict source = .failed .grammatical off) :
    ∃ before t behind y, Token.significant source = before ++ t :: behind ∧
      Passes source .operand before y ∧ y.Refuses strict t.kind ∧ t.kind ≠ .unknown ∧
      off = some t.start := by
  unfold onSource at h
  split at h
  · cases eq_of_pulling_eq_grammatical h
  · exact exists_refused h

namespace Passes

/-- Where the pass has gone over the first tokens, the others settle the verdict. -/
theorem pulling_eq (h : Passes source x before y) (rest : List Token) :
    pulling (before ++ rest) (onTokens source strict x (before ++ rest)) =
      pulling rest (onTokens source strict y rest) := by
  induction h with
  | nil => rfl
  | cons htakes _ ih =>
      rw [List.cons_append, pulling_of_ne_unknown htakes.kind_ne.2, htakes.onTokens_eq, ih]

/-- The pass goes over tokens in any source in which they spell the same. -/
theorem of_text {other : Text} (h : Passes source x before y)
    (htext : ∀ u ∈ before, u.text other = u.text source) : Passes other x before y := by
  induction h with
  | nil => exact .nil _
  | @cons x y z t rest htakes _ ih =>
      refine .cons ?_ (ih fun u hu => htext u (List.mem_cons_of_mem _ hu))
      cases htakes with
      | number hx hkind hne =>
          rw [← htext t List.mem_cons_self] at hne
          exact .number hx hkind hne
      | minus hkind => exact .minus hkind
      | operator ho => exact .operator ho

/-- The pass over a source goes over its first tokens. -/
theorem onSource_eq (h : Passes source .operand before y)
    (hsource : Token.significant source = before ++ t :: rest)
    (ht : before ≠ [] ∨ t.kind ≠ .eof) :
    onSource strict source = pulling (t :: rest) (onTokens source strict y (t :: rest)) := by
  have hfirst : (before ++ t :: rest).head?.map (·.kind) ≠ some .eof := by
    intro heof
    cases h with
    | nil => exact ht.elim (fun hne => hne rfl) fun hne => hne (Option.some.inj heof)
    | cons htakes _ => exact htakes.kind_ne.1 (Option.some.inj heof)
  unfold onSource
  rw [hsource, if_neg hfirst]
  exact h.pulling_eq (t :: rest)

/-- A source that ends behind tokens that the pass goes over is accepted, or it is empty. -/
theorem onSource_front (h : Passes source .operand before y)
    (hsource : Token.significant source = before ++ [t]) (ht : t.kind = .eof) :
    onSource strict source = .empty ∨ onSource strict source = .accepted := by
  by_cases hnil : before = []
  · refine .inl ?_
    unfold onSource
    rw [hsource, hnil]
    simp [pulling, ht]
  · refine .inr ?_
    rw [h.onSource_eq hsource (.inl hnil), pulling_of_ne_unknown (by rw [ht]; decide)]
    cases y <;> simp [onTokens, ht]

/-- A source that goes on with a token of a refused kind, or with none that a source may
hold, fails there. -/
theorem onSource_refused {k : TokenKind} (h : Passes source .operand before y)
    (hsource : Token.significant source = before ++ t :: rest) (hk : y.Refuses strict k)
    (ht : t.kind = k ∨ t.kind = .unknown) :
    onSource strict source = grammatical t ∨ onSource strict source = lexical t := by
  have heof : t.kind ≠ .eof := by
    rcases ht with ht | ht <;> rw [ht]
    · exact hk.ne_eof
    · decide
  rw [h.onSource_eq hsource (.inr heof)]
  by_cases hunknown : t.kind = .unknown
  · exact .inr (if_pos hunknown)
  · rw [pulling_of_ne_unknown hunknown]
    rw [← ht.resolve_right hunknown] at hk
    exact .inl (onTokens_of_refuses hk rest)

end Passes

/-! ## Verdicts and outcomes -/

theorem exists_ok {outcome : Except Fault Tree}
    (h : ofOutcome outcome = .empty ∨ ofOutcome outcome = .accepted) :
    ∃ tree, outcome = .ok tree := by
  cases outcome with
  | ok tree => exact ⟨tree, rfl⟩
  | error e => rcases h with h | h <;> cases h

theorem exists_error {outcome : Except Fault Tree}
    (h : ofOutcome outcome = grammatical t ∨ ofOutcome outcome = lexical t) :
    ∃ e, outcome = .error e ∧ (e.family = .lexical ∨ e.family = .grammatical) := by
  rcases outcome with e | _ | n
  · refine ⟨e, rfl, ?_⟩
    rcases h with h | h
    · exact .inr (Verdict.failed.inj h).1
    · exact .inl (Verdict.failed.inj h).1
  · rcases h with h | h <;> cases h
  · rcases h with h | h <;> cases h

end Verdict

/-! ## One character of a token -/

/-- The first character settles the kind of a token, except that a number may become a run
with one point too many. -/
theorem TokenKind.Spells.kind_of_head {k k' : TokenKind} {c : Char} {s s' : Text}
    (h : k.Spells (c :: s)) (h' : k'.Spells (c :: s')) (hspace : k ≠ .whitespace)
    (hunknown : k ≠ .unknown) : k' = k ∨ k' = .unknown := by
  by_cases hc : Lexer.isSpacing c = true
  · exact absurd (h.of_spacing hc).1 hspace
  by_cases hc' : Lexer.isNumeric c = true
  · rw [(h.of_numeric hc').1] at hunknown ⊢
    rw [(h'.of_numeric hc').1]
    unfold Lexer.numericKind at hunknown ⊢
    split at hunknown
    · exact absurd rfl hunknown
    · split
      · exact .inr rfl
      · exact .inl rfl
  · rw [Bool.not_eq_true] at hc hc'
    exact .inl ((h'.of_neither hc hc').2.trans (h.of_neither hc hc').2.symm)

/-- A text that begins with the first character of a significant token begins with a token of
that kind, or with none that a source may hold. -/
theorem Token.exists_significant_cons {k : TokenKind} {c : Char} {s : Text}
    (h : k.Spells (c :: s)) (hspace : k ≠ .whitespace) (hunknown : k ≠ .unknown) (more : Text) :
    ∃ t rest, significant (c :: more) = t :: rest ∧ (t.kind = k ∨ t.kind = .unknown) := by
  obtain ⟨ts, hts⟩ := exists_cuts (Nat.zero_le (c :: more).length)
  cases ts with
  | nil =>
      have hend := hts.tiling.eq_of_nil
      rw [List.length_cons] at hend
      omega
  | cons t ts =>
      obtain ⟨d, s', tail, htext, hdrop⟩ := hts.head
      obtain ⟨rfl, -⟩ := List.cons.inj hdrop
      have hspells := hts.spells t List.mem_cons_self
      rw [htext] at hspells
      have hkind := h.kind_of_head hspells hspace hunknown
      have hkept : t.kind ≠ .whitespace := by
        rcases hkind with hkind | hkind <;> rw [hkind]
        · exact hspace
        · decide
      rw [hts.significant_eq, List.filter_cons_of_pos (by simpa using hkept)]
      exact ⟨t, _, rfl, hkind⟩

/-- Cut off behind its first character, a token leaves that character of itself. -/
theorem Token.CutOff.exists_first {source : Text} {before : List Token} {t : Token} {i n : Nat}
    (h : CutOff source before t i n) : ∃ c s, t.text source = c :: s ∧
      (source.drop i).head? = some c ∧ source.take (i + 1) = source.take i ++ [c] := by
  obtain ⟨c, s, htext⟩ := List.exists_cons_of_ne_nil h.spells.nonempty
  have hspan : (source.drop i).take n = c :: s := by
    rw [← text_eq (congrArg Token.start h.shape) (congrArg Token.length h.shape), htext]
  obtain ⟨tail, hdrop⟩ : ∃ tail, source.drop i = c :: tail := by
    have hall := List.take_append_drop n (source.drop i)
    rw [hspan] at hall
    exact ⟨_, hall.symm⟩
  refine ⟨c, s, htext, by rw [hdrop]; rfl, ?_⟩
  rw [List.take_add, hdrop]
  rfl

/-! ## Cutting off a source that fails -/

/-- A source with a token that does not belong where it stands parses if it is cut off in front
of that token, and fails for one of its tokens if it is cut off behind the first character of
the token, whatever it goes on with. -/
theorem Parser.parse_earliest {p : Parser} {source : Text} {e : Fault}
    (h : ((parse source).run p).outcome = .error e) (hfamily : e.family = .grammatical) :
    ∃ (kind : TokenKind) (b l : Nat), e.offset? = some (b : Int) ∧ b < source.length ∧
      ⟨kind, b, l⟩ ∈ Token.ofText source ∧ kind ≠ .whitespace ∧
      (∃ tree, ((parse (source.take b)).run p).outcome = .ok tree) ∧
      ∀ more : Text, ∃ e', ((parse (source.take (b + 1) ++ more)).run p).outcome = .error e' ∧
        (e'.family = .lexical ∨ e'.family = .grammatical) := by
  have hverdict : Verdict.onSource p.strict source = .failed .grammatical e.offset? := by
    rw [← Scan.ofOutcome_parse, ← outcome_parse, h, ← hfamily]
    rfl
  obtain ⟨before, t, behind, y, hsource, hpasses, hrefuses, hunknown, hoff⟩ :=
    Verdict.exists_refused_onSource hverdict
  obtain ⟨b, l, hcut⟩ := Token.exists_cutOff hsource hrefuses.ne_eof
  obtain ⟨c, s, htext, hhead, htake⟩ := hcut.exists_first
  have hmem : t ∈ Token.significant source := by simp [hsource]
  obtain ⟨hmem, hspace⟩ := List.mem_filter.mp hmem
  have hspace : t.kind ≠ .whitespace := by simpa using hspace
  have hlt : b < source.length := by
    refine Nat.lt_of_not_le fun hle => ?_
    rw [List.drop_eq_nil_of_le hle] at hhead
    cases hhead
  refine ⟨t.kind, b, l, ?_, hlt, hcut.shape ▸ hmem, hspace, ?_, fun more => ?_⟩
  · rw [hoff, congrArg Token.start hcut.shape]
  · -- in front of the token, the source ends where the pass has come
    refine Verdict.exists_ok ?_
    rw [outcome_parse, Scan.ofOutcome_parse]
    exact (hpasses.of_text hcut.text_front).onSource_front hcut.front rfl
  · -- behind the character, a token begins that is refused as well
    have hseam : Text.Seam (source.take b) (c :: more) := hcut.seam.of_head?_eq hhead
    obtain ⟨hinstead, hsame⟩ := hcut.instead hseam
    have hspells := hcut.spells
    rw [htext] at hspells
    obtain ⟨u, rest, hfirst, hkind⟩ :=
      Token.exists_significant_cons hspells hspace hunknown more
    rw [hfirst] at hinstead
    have hrefused := (hpasses.of_text hsame).onSource_refused hinstead hrefuses hkind
    rw [htake, List.append_assoc]
    refine Verdict.exists_error (t := u.shifted (source.take b).length) ?_
    rw [outcome_parse, Scan.ofOutcome_parse]
    exact hrefused

/-- A number that a strict parser refuses, and that may go on behind the cut. -/
theorem Parser.parse_earliest_number :
    ((parse "-2^ 3\t.5)").run (new true)).outcome = .error (.trailingToken 6 ".5") ∧
      ∃ (kind : TokenKind) (b l : Nat), (Fault.trailingToken 6 ".5").offset? = some (b : Int) ∧
        b < ("-2^ 3\t.5)" : Text).length ∧ ⟨kind, b, l⟩ ∈ Token.ofText "-2^ 3\t.5)" ∧
        kind ≠ .whitespace ∧
        (∃ tree, ((parse (("-2^ 3\t.5)" : Text).take b)).run (new true)).outcome = .ok tree) ∧
        ∀ more : Text, ∃ e',
          ((parse (("-2^ 3\t.5)" : Text).take (b + 1) ++ more)).run (new true)).outcome =
            .error e' ∧ (e'.family = .lexical ∨ e'.family = .grammatical) := by
  have h : ((parse "-2^ 3\t.5)").run (new true)).outcome = .error (.trailingToken 6 ".5") := by
    decide +kernel
  exact ⟨h, parse_earliest h rfl⟩

end Reckoner
