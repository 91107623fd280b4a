import Reckoner.Proofs.NestedLevels
import Reckoner.Proofs.Seams
import Reckoner.Session.Basic

/-!
# Missing operands (the end of the input counts as a zero)

A source that ends where an operand has to stand is parsed as if a zero were written behind
it. This is said with two sources, the second of which is the first with a zero behind it.
Their tokens are the same, at the same places, up to the operator in front of the missing
operand, and behind it the one has its end and the other a zero and its end
(`Scan.Completes`). The two are read side by side.

* `Scan.Agree`: two outcomes that agree, which is closed under putting steps together. Unlike
  sources whose spacing differs, these two have the same faults at the same places.
* `Scan.agree_literal`: the only step that sees the zero or the end in its place. Behind it,
  both sources have ended.
* `Scan.agree_links`: in front of an operand the tokens may be the end and the zero, and
  behind one they may not. The loop goes from the one to the other and back.
* `Token.completes_significant`: the tokens of such sources.
* `Scan.operand_of_last_minus`: the zero that a minus sign at the end stands above.
* `Parser.parse_missing_operand`: parsing and evaluating them.
-/

namespace Reckoner

open Lexer (isSpacing isNumeric)

namespace Scan

/-! ## Two runs side by side -/

/-- Two outcomes agree: results are related, and faults are the same. -/
inductive Agree {α β : Type} (R : α → β → Prop) : Except Fault α → Except Fault β → Prop
  | ok {x : α} {y : β} : R x y → Agree R (.ok x) (.ok y)
  | fault (e : Fault) : Agree R (.error e) (.error e)

namespace Agree

variable {α β γ δ : Type} {R : α → β → Prop} {S : γ → δ → Prop} {x : Except Fault α}
  {y : Except Fault β}

theorem bind (h : Agree R x y) {f : α → Except Fault γ} {g : β → Except Fault δ}
    (hf : ∀ v w, R v w → Agree S (f v) (g w)) : Agree S (x >>= f) (y >>= g) := by
  cases h with
  | ok hR => exact hf _ _ hR
  | fault e => exact .fault e

theorem map (h : Agree R x y) {f : α → γ} {g : β → δ} (hf : ∀ v w, R v w → S (f v) (g w)) :
    Agree S (x.map f) (y.map g) := by
  cases h with
  | ok hR => exact .ok (hf _ _ hR)
  | fault e => exact .fault e

theorem eq {x y : Except Fault α} (h : Agree (· = ·) x y) : x = y := by
  cases h with
  | ok hR => exact congrArg _ hR
  | fault e => rfl

end Agree

/-- The one list is the end, and the other a zero and then the end. -/
inductive Missing (b : Text) : List Token → List Token → Prop
  | zero {e z e' : Token} : e.kind = .eof → z.kind = .number → numeral b z = .ok 0 →
      e'.kind = .eof → Missing b [e] [z, e']

/-- The tokens are the same and spell the same, but where the one list has an operator at
its end, the other may have a zero behind it. -/
inductive Completes (a b : Text) : List Token → List Token → Prop
  | ended {e e' : Token} : e.kind = .eof → e'.kind = .eof → Completes a b [e] [e']
  | missing {t : Token} {o : Operator} {ts us : List Token} : Operator.ofKind? t.kind = some o →
      t.text a = t.text b → Missing b ts us → Completes a b (t :: ts) (t :: us)
  | same {t : Token} {ts us : List Token} : t.text a = t.text b → Completes a b ts us →
      Completes a b (t :: ts) (t :: us)

/-- How tokens may be related where an operand has to stand. -/
def Wanting (a b : Text) (ts us : List Token) : Prop :=
  Missing b ts us ∨ Completes a b ts us

/-- The same has been read, and related tokens are ahead. -/
def SameRead (a b : Text) {α : Type} (x y : α × List Token) : Prop :=
  x.1 = y.1 ∧ Completes a b x.2 y.2

variable {a b : Text} {ts us : List Token} {t : Token}

/-- The first tokens are of the same kind and spell the same, or else both sources have
ended. What is behind an operator may lack an operand. -/
theorem Completes.uncons (h : Completes a b (t :: ts) us) :
    (t.kind = .eof ∧ ∃ e, us = [e] ∧ e.kind = .eof) ∨
      ∃ us', us = t :: us' ∧ t.text a = t.text b ∧ Wanting a b ts us' ∧
        (Operator.ofKind? t.kind = none → Completes a b ts us') := by
  cases h with
  | ended he he' => exact .inl ⟨he, _, rfl, he'⟩
  | missing ho htext hrest =>
      refine .inr ⟨_, rfl, htext, .inl hrest, fun hnone => ?_⟩
      rw [hnone] at ho
      cases ho
  | same htext hrest => exact .inr ⟨_, rfl, htext, .inr hrest, fun _ => hrest⟩

/-! ## Steps -/

/-- The first token can be pulled in both sources or in neither. -/
theorem agree_pull {R : List Token → List Token → Prop} (h : Wanting a b ts us) (hR : R ts us) :
    Agree R (pull a ts) (pull b us) := by
  rcases h with h | h
  · cases h with
    | zero he hz _ _ =>
        simp only [pull, he, hz]
        exact .ok hR
  · cases h with
    | ended he he' =>
        simp only [pull, he, he']
        exact .ok hR
    | missing _ htext _ =>
        simp only [pull, htext]
        split
        · exact .fault _
        · exact .ok hR
    | same htext _ =>
        simp only [pull, htext]
        split
        · exact .fault _
        · exact .ok hR

/-- A number is read alike in both sources, and the end of the one like the zero of the
other. -/
theorem agree_literal (node : Float → Node) (h : Wanting a b ts us) :
    Agree (SameRead a b) (literal a node ts) (literal b node us) := by
  rcases h with h | h
  · cases h with
    | @zero e z e' he hz hzero he' =>
        have hpull : pull b [e'] = .ok [e'] := by simp [pull, he']
        rw [literal_of_eof a he, literal_of_number b hz, hpull, hzero]
        exact .ok ⟨rfl, .ended he he'⟩
  · cases ts with
    | nil => cases h
    | cons t ts =>
        rcases h.uncons with ⟨heof, e, rfl, he⟩ | ⟨us, rfl, htext, -, hbehind⟩
        · rw [literal_of_eof a heof, literal_of_eof b he]
          exact .ok ⟨rfl, h⟩
        by_cases heof : t.kind = .eof
        · rw [literal_of_eof a heof, literal_of_eof b heof]
          exact .ok ⟨rfl, h⟩
        by_cases hnumber : t.kind = .number
        · have hrest := hbehind (by rw [hnumber]; rfl)
          rw [literal_of_number a hnumber, literal_of_number b hnumber]
          refine (agree_pull (.inr hrest) hrest).bind fun next next' hnext => ?_
          unfold numeral
          rw [htext]
          split
          · exact .ok ⟨rfl, hnext⟩
          · exact .fault _
        · rw [literal_of_ne a heof hnumber, literal_of_ne b heof hnumber, htext]
          exact .fault _

theorem agree_operand (h : Wanting a b ts us) :
    Agree (SameRead a b) (operand a ts) (operand b us) := by
  cases ts with
  | nil => rcases h with h | h <;> cases h
  | cons t ts =>
      have hplain {u : Token} {us : List Token} (h : Wanting a b (t :: ts) (u :: us))
          (ht : t.kind ≠ .minus) (hu : u.kind ≠ .minus) :
          Agree (SameRead a b) (operand a (t :: ts)) (operand b (u :: us)) := by
        rw [operand_of_ne_minus a ht, operand_of_ne_minus b hu]
        exact agree_literal .value h
      rcases h with hmissing | hcompletes
      · cases hmissing with
        | zero he hz hzero he' =>
            exact hplain (.inl (.zero he hz hzero he')) (by rw [he]; decide) (by rw [hz]; decide)
      · rcases hcompletes.uncons with ⟨heof, e, rfl, he⟩ | ⟨us, rfl, -, hrest, -⟩
        · exact hplain (.inr hcompletes) (by rw [heof]; decide) (by rw [he]; decide)
        by_cases hminus : t.kind = .minus
        · rw [operand_of_minus a hminus, operand_of_minus b hminus]
          exact (agree_pull hrest hrest).bind fun next next' hnext => agree_literal negative hnext
        · exact hplain (.inr hcompletes) hminus hminus

theorem agree_operandBehind (h : Wanting a b ts us) :
    Agree (SameRead a b) (operandBehind a ts) (operandBehind b us) :=
  (agree_pull h h).bind fun _ _ hnext => agree_operand hnext

/-- Both loops stop together, and where they go on each round reads the same. -/
theorem agree_links (least : Nat) (h : Completes a b ts us) :
    Agree (SameRead a b) (links a least ts) (links b least us) := by
  -- an operator is never the end, so that the tokens behind it are related
  have hbehind {t : Token} {ts us : List Token} {o : Operator}
      (h : Completes a b (t :: ts) us) (ho : Operator.ofKind? t.kind = some o) :
      ∃ us', us = t :: us' ∧ Agree (SameRead a b) (operandBehind a ts) (operandBehind b us') := by
    rcases h.uncons with ⟨heof, -⟩ | ⟨us', rfl, -, hrest, -⟩
    · exact absurd heof (Operator.ne_eof_of_ofKind? ho)
    · exact ⟨us', rfl, agree_operandBehind hrest⟩
  fun_induction links a least ts generalizing us with
  | case1 => cases h
  | case2 t rest hnone =>
      rcases h.uncons with ⟨heof, e, rfl, he⟩ | ⟨us', rfl, -⟩
      · rw [links_of_none b (by rw [he]; rfl)]
        exact .ok ⟨rfl, h⟩
      · rw [links_of_none b hnone]
        exact .ok ⟨rfl, h⟩
  | case3 t rest o ho hlt =>
      obtain ⟨us', rfl, -⟩ := hbehind h ho
      rw [links_of_lt b ho hlt]
      exact .ok ⟨rfl, h⟩
  | case4 t rest o ho hge e hfails =>
      obtain ⟨us', rfl, hoperand⟩ := hbehind h ho
      rw [hfails] at hoperand
      rw [links_of_le b ho (Nat.le_of_not_lt hge)]
      generalize operandBehind b us' = behind at hoperand ⊢
      cases hoperand
      exact .fault e
  | case5 t rest o ho hge x next hreads ih =>
      obtain ⟨us', rfl, hoperand⟩ := hbehind h ho
      rw [hreads] at hoperand
      rw [links_of_le b ho (Nat.le_of_not_lt hge)]
      generalize operandBehind b us' = behind at hoperand ⊢
      cases hoperand with
      | @ok _ r hread =>
          obtain ⟨x', next'⟩ := r
          obtain ⟨rfl, hnext⟩ := hread
          refine (ih hnext).map ?_
          rintro ⟨more, last⟩ ⟨more', last'⟩ ⟨rfl, hlast⟩
          exact ⟨rfl, hlast⟩

theorem agree_subtree (least : Nat) (h : Completes a b ts us) :
    Agree (SameRead a b) (subtree a least ts) (subtree b least us) := by
  refine (agree_operand (.inr h)).bind ?_
  rintro ⟨first, next⟩ ⟨first', next'⟩ ⟨rfl, hnext⟩
  refine (agree_links least hnext).map ?_
  rintro ⟨more, last⟩ ⟨more', last'⟩ ⟨rfl, hlast⟩
  exact ⟨rfl, hlast⟩

theorem agree_finish (strict : Bool) (h : Completes a b ts us) :
    Agree (· = ·) (finish a strict ts) (finish b strict us) := by
  cases ts with
  | nil => cases h
  | cons t ts =>
      unfold finish
      rcases h.uncons with ⟨heof, e, rfl, he⟩ | ⟨us, rfl, htext, -⟩
      · dsimp only
        rw [if_pos heof, if_pos he]
        exact .ok rfl
      · dsimp only
        rw [htext]
        split
        · exact .ok rfl
        · split
          · exact .fault _
          · exact .ok rfl

theorem agree_parse (strict : Bool)
    (h : Completes a b (Token.significant a) (Token.significant b)) :
    Agree (· = ·) (parse a strict) (parse b strict) := by
  refine (agree_pull (.inr h) h).bind fun next next' hnext => ?_
  have hkind : next.head?.map (·.kind) = next'.head?.map (·.kind) := by
    cases hnext with
    | ended he he' => exact congrArg some (he.trans he'.symm)
    | _ => rfl
  rw [hkind]
  split
  · exact .ok rfl
  · refine (agree_subtree 1 hnext).bind ?_
    rintro ⟨root, rest⟩ ⟨root', rest'⟩ ⟨rfl, hrest⟩
    exact (agree_finish strict hrest).bind fun _ _ _ => .ok rfl

theorem Completes.append {before : List Token} (hbefore : ∀ u ∈ before, u.text a = u.text b)
    (h : Completes a b ts us) : Completes a b (before ++ ts) (before ++ us) := by
  induction before with
  | nil => exact h
  | cons u before ih =>
      exact .same (hbefore u List.mem_cons_self)
        (ih fun v hv => hbefore v (List.mem_cons_of_mem _ hv))

end Scan

/-! ## A zero behind an operator -/

namespace TokenKind

/-- Neither spacing nor an operator has digits or points in it. -/
theorem Spells.not_numeric {k : TokenKind} {w : Text} (h : k.Spells w)
    (hk : k = .whitespace ∨ (Operator.ofKind? k).isSome) : ∀ c ∈ w, isNumeric c = false := by
  cases h with
  | single hmem =>
      intro c hc
      rw [List.mem_singleton.mp hc]
      exact (classes_of_mem_singles hmem).2.1
  | spacing hrun => exact fun c hc => isNumeric_of_isSpacing (hrun.all c hc)
  | _ => rcases hk with hk | hk <;> cases hk

end TokenKind

namespace Token

variable {source : Text} {t : Token} {o : Operator}

/-- The one token of a zero. -/
theorem cuts_zero : Cuts "0" 0 [⟨.number, 0, 1⟩] := by
  obtain ⟨ts, hts⟩ : ∃ ts, Cuts "0" 0 ts := exists_cuts (Nat.zero_le _)
  have hall : ofText "0" = [⟨.number, 0, 1⟩] ++ [⟨.eof, 1, 1⟩] := by decide +kernel
  rw [hts.ofText_eq] at hall
  rw [← (List.append_inj' hall rfl).1]
  exact hts

/-- A zero does not go on with the last run of a text whose last significant token is an
operator. -/
theorem seam_zero {ts : List Token} (h : Cuts source 0 ts)
    (ht : t ∈ (ts.filter fun t => t.kind ≠ .whitespace).getLast?)
    (ho : Operator.ofKind? t.kind = some o) : source.Seam "0" := by
  have hne : ts ≠ [] := by
    rintro rfl
    cases ht
  obtain ⟨rest, u, rfl⟩ := (List.eq_nil_or_concat ts).resolve_left hne
  rw [List.concat_eq_append] at h ht
  have hlast : u.kind = .whitespace ∨ (Operator.ofKind? u.kind).isSome := by
    by_cases hu : u.kind = .whitespace
    · exact .inl hu
    · rw [List.filter_append, List.filter_cons_of_pos (by simpa using hu)] at ht
      obtain rfl : u = t := by simpa using ht
      exact .inr (by rw [ho]; rfl)
  have hnumeric := (h.spells u (by simp)).not_numeric hlast
  have hend := h.getLast?_text (t := u) (by simp)
  refine ⟨fun c _ d hd _ => ?_, fun c hc d _ hrun => ?_⟩
  · obtain rfl : '0' = d := Option.some.inj hd
    decide
  · rw [← hend] at hc
    rw [hnumeric c (List.mem_of_getLast? hc)] at hrun
    cases hrun

/-- With a zero behind it, a text whose last significant token is an operator has the same
tokens and the zero. -/
theorem completes_significant (ht : (significant source).dropLast.getLast? = some t)
    (ho : Operator.ofKind? t.kind = some o) :
    Scan.Completes source (source ++ "0") (significant source) (significant (source ++ "0")) := by
  obtain ⟨ts, hts⟩ := exists_cuts (Nat.zero_le source.length)
  rw [hts.significant_eq, List.dropLast_concat] at ht
  have hcuts := hts.append cuts_zero (seam_zero hts ht ho)
  obtain ⟨before, hbefore⟩ := List.getLast?_eq_some_iff.mp ht
  have htext (u : Token) (hu : u ∈ before ++ [t]) : u.text source = u.text (source ++ "0") := by
    rw [← hbefore] at hu
    exact (hts.text_append (List.mem_filter.mp hu).1).symm
  have hzero : Scan.numeral (source ++ "0") (shifted ⟨.number, 0, 1⟩ source.length) = .ok 0 := by
    unfold Scan.numeral
    rw [cuts_zero.text_shifted List.mem_cons_self]
    rw [show Number.read? (text ⟨.number, 0, 1⟩ "0") = some 0 by decide +kernel]
  rw [hts.significant_eq, hcuts.significant_eq, List.filter_append, hbefore]
  simp only [List.append_assoc]
  refine .append (fun u hu => htext u (List.mem_append_left _ hu)) ?_
  exact .missing ho (htext t (by simp)) (.zero rfl rfl hzero rfl)

end Token

/-! ## A minus sign at the end -/

/-- Where an operand has to stand, a minus sign with nothing behind it is a zero under it. -/
theorem Scan.operand_of_last_minus (source : Text) {t e : Token} (ht : t.kind = .minus)
    (he : e.kind = .eof) : operand source [t, e] = .ok (.unary 0 (some .subtract), [e]) := by
  have hpull : pull source [e] = .ok [e] := by simp [pull, he]
  rw [operand_of_minus source ht, hpull]
  exact literal_of_eof source he negative []

/-- A source in which nothing but a minus sign is significant is a zero under it. -/
theorem Scan.parse_of_lone_minus {source : Text} {t : Token}
    (hlone : (Token.significant source).dropLast = [t]) (ht : t.kind = .minus) (strict : Bool) :
    parse source strict = .ok (some (.unary 0 (some .subtract))) := by
  obtain ⟨e, htokens, he⟩ : ∃ e, Token.significant source = [t, e] ∧ e.kind = .eof := by
    obtain ⟨ts, hts⟩ := Token.exists_cuts (Nat.zero_le source.length)
    have htokens := hts.significant_eq
    rw [htokens, List.dropLast_concat] at hlone
    rw [hlone] at htokens
    exact ⟨_, htokens, rfl⟩
  have hsubtree : subtree source 1 [t, e] = .ok (.unary 0 (some .subtract), [e]) := by
    unfold subtree
    rw [operand_of_last_minus source ht he]
    show (links source 1 [e]).map _ = _
    rw [links_of_none source (by rw [he]; rfl)]
    rfl
  have hfinish : finish source strict [e] = .ok () := if_pos he
  unfold parse
  rw [htokens, show pull source [t, e] = .ok [t, e] by simp [pull, ht]]
  show (if some t.kind = some .eof then _ else subtree source 1 [t, e] >>= _) = _
  rw [ht, if_neg (by decide), hsubtree]
  show (finish source strict [e] >>= _) = _
  rw [hfinish]
  rfl

/-! ## Parsing -/

/-- A source whose last significant token is an operator is parsed to the same tree as the
source with a zero behind it, or fails with the same error, however much of it is read. So
the trees have the same values. If there is no other significant token and the operator is a
minus sign, the tree is a zero under it. -/
theorem Parser.parse_missing_operand (p : Parser) {source : Text} {t : Token}
    (ht : (Token.significant source).dropLast.getLast? = some t)
    (hkind : t.kind ∈ ([.plus, .minus, .times, .slash, .caret] : List TokenKind)) :
    ((parse source).run p).outcome = ((parse (source ++ "0")).run p).outcome ∧
      (∀ emptyResult, (((parse source).run p).outcome >>= Tree.evaluate emptyResult) =
        (((parse (source ++ "0")).run p).outcome >>= Tree.evaluate emptyResult)) ∧
      ((Token.significant source).dropLast = [t] → t.kind = .minus →
        ((parse source).run p).outcome = .ok (some (.unary 0 (some .subtract)))) := by
  obtain ⟨o, ho⟩ : ∃ o, Operator.ofKind? t.kind = some o := by
    simp only [List.mem_cons, List.not_mem_nil, or_false] at hkind
    rcases hkind with h | h | h | h | h <;> rw [h] <;> exact ⟨_, rfl⟩
  have houtcome : ((parse source).run p).outcome = ((parse (source ++ "0")).run p).outcome := by
    rw [outcome_parse, outcome_parse]
    exact (Scan.agree_parse p.strict (Token.completes_significant ht ho)).eq
  refine ⟨houtcome, fun emptyResult => by rw [houtcome], fun hlone hminus => ?_⟩
  rw [outcome_parse]
  exact Scan.parse_of_lone_minus hlone hminus p.strict

/-- Behind the parenthesis nothing is read, and so the missing operand is not missed. -/
theorem Parser.parse_missing_operand_ignored :
    (Token.significant "6)1/ ").dropLast.getLast? = some ⟨.slash, 3, 1⟩ ∧
      ((parse "6)1/ ").run (new false)).outcome =
        ((parse ("6)1/ " ++ "0")).run (new false)).outcome ∧
      (∀ emptyResult, (((parse "6)1/ ").run (new false)).outcome >>= Tree.evaluate emptyResult) =
        (((parse ("6)1/ " ++ "0")).run (new false)).outcome >>= Tree.evaluate emptyResult)) ∧
      ((parse " - ").run (new false)).outcome = .ok (some (.unary 0 (some .subtract))) := by
  have ht : (Token.significant "6)1/ ").dropLast.getLast? = some ⟨.slash, 3, 1⟩ := by
    decide +kernel
  have hlone : (Token.significant " - ").dropLast = [⟨.minus, 1, 1⟩] := by decide +kernel
  obtain ⟨houtcome, hvalue, -⟩ := parse_missing_operand (new false) ht (by decide)
  obtain ⟨-, -, hminus⟩ := parse_missing_operand (new false) (by rw [hlone]; rfl) (by decide)
  exact ⟨ht, houtcome, hvalue, hminus hlone rfl⟩

end Reckoner
