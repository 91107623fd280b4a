import Mathlib.Data.List.DropRight
import Mathlib.Data.List.Forall2
import Mathlib.Logic.Relation
import Reckoner.Proofs.ExpressionFaults
import Reckoner.Proofs.Seams

/-!
# Spacing (what stands between tokens never shows)

Of a source, parsing sees the words: the kinds and texts of its significant tokens, in
order (`Token.words`). Two sources with the same words are parsed to the same tree, or
both fail for the same reason, each at its own token with the same number. Two runs are
compared for that, over tokens that lie at different places of different sources:

* `Token.Twins`: a token of the one source and its counterpart in the other.
* `Scan.Concur`: two outcomes that agree, which is closed under putting steps together
  (`Concur.bind`). Each step of the scan is looked into once, from `concur_pull` to
  `concur_parse`.
* `Token.words_eq_of_respaced`: changing spacing changes no words, unless a run of digits
  and points is split or joined.
* `Parser.parse_words`: hence it does not change what a source is parsed to.
-/

namespace Reckoner

open Lexer (isSpacing isNumeric)

/-- The kinds and texts of the significant tokens of a source, in order. -/
def Token.words (source : Text) : List (TokenKind × Text) :=
  (significant source).map fun t => (t.kind, t.text source)

/-- The second text is the first with a gap changed: spacing or nothing has become spacing
or nothing, and no run of digits and points is split or joined by that. -/
inductive Text.Respaced : Text → Text → Prop
  | edit {before old new after : Text} :
      (∀ c ∈ old, isSpacing c = true) → (∀ c ∈ new, isSpacing c = true) →
      (∀ c ∈ before.getLast?, ∀ d ∈ after.head?, isNumeric c = true → isNumeric d = true →
        (old = [] ↔ new = [])) →
      Respaced (before ++ old ++ after) (before ++ new ++ after)

/-! ## Two runs side by side -/

/-- Faults of one cause, as they are at each place. -/
inductive Fault.Placed : (Int → Fault) → Prop
  | invalidToken (text : Text) : Placed (.invalidToken · text)
  | malformedNumber (text : Text) : Placed (.malformedNumber · text)
  | unexpectedToken (text : Text) : Placed (.unexpectedToken · text)
  | trailingToken (text : Text) : Placed (.trailingToken · text)

/-- Such faults are of one family, and their messages differ in the place only. -/
theorem Fault.Placed.wording {cause : Int → Fault} (h : Placed cause) :
    ∃ (family : Family) (wording : Text), ∀ i, (cause i).family = family ∧
      (cause i).offset? = some i ∧ (cause i).message = wording ++ Text.ofInt i := by
  cases h <;> exact ⟨_, _, fun i => ⟨rfl, rfl, rfl⟩⟩

/-- Tokens of two sources that have the same kind, text and number. -/
structure Token.Twins (a b : Text) (t u : Token) : Prop where
  kind : t.kind = u.kind
  text : t.text a = u.text b
  index : ∃ i : Nat, (significant a)[i]? = some t ∧ (significant b)[i]? = some u

namespace Scan

/-- Two outcomes agree: results are related, and faults have one cause, which lies in twins,
or is that no token is left. -/
inductive Concur (a b : Text) {α β : Type} (R : α → β → Prop) :
    Except Fault α → Except Fault β → Prop
  | ok {x : α} {y : β} : R x y → Concur a b R (.ok x) (.ok y)
  | fault {t u : Token} {cause : Int → Fault} : Token.Twins a b t u → Fault.Placed cause →
      Concur a b R (.error (cause t.start)) (.error (cause u.start))
  | absent : Concur a b R (.error (Parser.missingToken "type"))
      (.error (Parser.missingToken "type"))

/-- The same has been read, and twins are ahead. -/
def Alike (a b : Text) {α : Type} (x y : α × List Token) : Prop :=
  x.1 = y.1 ∧ x.2.Forall₂ (Token.Twins a b) y.2

variable {a b : Text} {ts us : List Token} {t u : Token}

namespace Concur

variable {α β γ δ : Type} {R : α → β → Prop} {S : γ → δ → Prop} {x : Except Fault α}
  {y : Except Fault β}

theorem bind (h : Concur a b R x y) {f : α → Except Fault γ} {g : β → Except Fault δ}
    (hf : ∀ v w, R v w → Concur a b S (f v) (g w)) : Concur a b S (x >>= f) (y >>= g) := by
  cases h with
  | ok hR => exact hf _ _ hR
  | fault htwins hcause => exact .fault htwins hcause
  | absent => exact .absent

theorem map (h : Concur a b R x y) {f : α → γ} {g : β → δ} (hf : ∀ v w, R v w → S (f v) (g w)) :
    Concur a b S (x.map f) (y.map g) := by
  cases h with
  | ok hR => exact .ok (hf _ _ hR)
  | fault htwins hcause => exact .fault htwins hcause
  | absent => exact .absent

end Concur

theorem concur_pull (h : ts.Forall₂ (Token.Twins a b) us) :
    Concur a b (List.Forall₂ (Token.Twins a b)) (pull a ts) (pull b us) := by
  cases h with
  | nil => exact .absent
  | @cons t u ts us htwins hrest =>
      unfold pull
      dsimp only
      rw [← htwins.kind, ← htwins.text]
      split
      · exact .fault htwins (.invalidToken _)
      · exact .ok (.cons htwins hrest)

theorem concur_numeral (h : Token.Twins a b t u) :
    Concur a b (· = ·) (numeral a t) (numeral b u) := by
  unfold numeral
  rw [← h.text]
  split
  · exact .ok rfl
  · exact .fault h (.malformedNumber _)

theorem concur_literal (node : Float → Node) (h : ts.Forall₂ (Token.Twins a b) us) :
    Concur a b (Alike a b) (literal a node ts) (literal b node us) := by
  cases h with
  | nil => exact .absent
  | @cons t u ts us htwins hrest =>
      by_cases heof : t.kind = .eof
      · rw [literal_of_eof a heof, literal_of_eof b (htwins.kind ▸ heof)]
        exact .ok ⟨rfl, .cons htwins hrest⟩
      by_cases hnumber : t.kind = .number
      · rw [literal_of_number a hnumber, literal_of_number b (htwins.kind ▸ hnumber)]
        refine (concur_pull hrest).bind fun next next' hnext => ?_
        refine (concur_numeral htwins).bind fun x y hxy => .ok ⟨congrArg node hxy, hnext⟩
      · rw [literal_of_ne a heof hnumber, literal_of_ne b (htwins.kind ▸ heof)
          (htwins.kind ▸ hnumber), ← htwins.text]
        exact .fault htwins (.unexpectedToken _)

theorem concur_operand (h : ts.Forall₂ (Token.Twins a b) us) :
    Concur a b (Alike a b) (operand a ts) (operand b us) := by
  cases h with
  | nil => exact .absent
  | @cons t u ts us htwins hrest =>
      by_cases hminus : t.kind = .minus
      · rw [operand_of_minus a hminus, operand_of_minus b (htwins.kind ▸ hminus)]
        exact (concur_pull hrest).bind fun next next' hnext => concur_literal negative hnext
      · rw [operand_of_ne_minus a hminus, operand_of_ne_minus b (htwins.kind ▸ hminus)]
        exact concur_literal .value (.cons htwins hrest)

theorem concur_operandBehind (h : ts.Forall₂ (Token.Twins a b) us) :
    Concur a b (Alike a b) (operandBehind a ts) (operandBehind b us) :=
  (concur_pull h).bind fun _ _ hnext => concur_operand hnext

/-- Both loops stop together, and where they go on each round reads the same. -/
theorem concur_links (least : Nat) (h : ts.Forall₂ (Token.Twins a b) us) :
    Concur a b (Alike a b) (links a least ts) (links b least us) := by
  fun_induction links a least ts generalizing us with
  | case1 =>
      cases h
      rw [links]
      exact .ok ⟨rfl, .nil⟩
  | case2 t rest hnone =>
      cases h with
      | cons htwins hrest =>
          rw [links_of_none b (htwins.kind ▸ hnone)]
          exact .ok ⟨rfl, .cons htwins hrest⟩
  | case3 t rest o ho hlt =>
      cases h with
      | cons htwins hrest =>
          rw [links_of_lt b (htwins.kind ▸ ho) hlt]
          exact .ok ⟨rfl, .cons htwins hrest⟩
  | case4 t rest o ho hge e hbehind =>
      cases h with
      | cons htwins hrest =>
          have hoperand := concur_operandBehind hrest
          rw [hbehind] at hoperand
          rw [links_of_le b (htwins.kind ▸ ho) (Nat.le_of_not_lt hge)]
          generalize operandBehind b _ = behind at hoperand ⊢
          cases hoperand with
          | fault htwins' hcause => exact .fault htwins' hcause
          | absent => exact .absent
  | case5 t rest o ho hge x next hbehind ih =>
      cases h with
      | cons htwins hrest =>
          have hoperand := concur_operandBehind hrest
          rw [hbehind] at hoperand
          rw [links_of_le b (htwins.kind ▸ ho) (Nat.le_of_not_lt hge)]
          generalize operandBehind b _ = behind at hoperand ⊢
          cases hoperand with
          | @ok _ r hread =>
              obtain ⟨x', next'⟩ := r
              obtain ⟨rfl, hnext⟩ := hread
              refine (ih hnext).map ?_
              rintro ⟨more, last⟩ ⟨more', last'⟩ ⟨rfl, hlast⟩
              exact ⟨rfl, hlast⟩

theorem concur_subtree (least : Nat) (h : ts.Forall₂ (Token.Twins a b) us) :
    Concur a b (Alike a b) (subtree a least ts) (subtree b least us) := by
  refine (concur_operand h).bind ?_
  rintro ⟨first, next⟩ ⟨first', next'⟩ ⟨rfl, hnext⟩
  refine (concur_links least hnext).map ?_
  rintro ⟨more, last⟩ ⟨more', last'⟩ ⟨rfl, hlast⟩
  exact ⟨rfl, hlast⟩

theorem concur_finish (strict : Bool) (h : ts.Forall₂ (Token.Twins a b) us) :
    Concur a b (· = ·) (finish a strict ts) (finish b strict us) := by
  cases h with
  | nil => exact .ok rfl
  | @cons t u ts us htwins hrest =>
      unfold finish
      dsimp only
      rw [← htwins.kind, ← htwins.text]
      split
      · exact .ok rfl
      · split
        · exact .fault htwins (.trailingToken _)
        · exact .ok rfl

theorem concur_parse (strict : Bool)
    (h : (Token.significant a).Forall₂ (Token.Twins a b) (Token.significant b)) :
    Concur a b (· = ·) (parse a strict) (parse b strict) := by
  refine (concur_pull h).bind fun next next' hnext => ?_
  have hkind : next.head?.map (·.kind) = next'.head?.map (·.kind) := by
    cases hnext with
    | nil => rfl
    | cons htwins _ => exact congrArg some htwins.kind
  rw [hkind]
  split
  · exact .ok rfl
  · refine (concur_subtree 1 hnext).bind ?_
    rintro ⟨root, rest⟩ ⟨root', rest'⟩ ⟨rfl, hrest⟩
    exact (concur_finish strict hrest).bind fun _ _ _ => .ok rfl

end Scan

/-- In sources with the same words, tokens with the same number are twins. -/
theorem Token.twins_of_words {a b : Text} (h : words a = words b) :
    (significant a).Forall₂ (Twins a b) (significant b) := by
  have hlength : (significant a).length = (significant b).length := by
    simpa [words] using congrArg List.length h
  refine List.forall₂_iff_get.mpr ⟨hlength, fun i hi hi' => ?_⟩
  have hword := congrArg (·[i]?) h
  simp only [words, List.getElem?_map, List.getElem?_eq_getElem hi, List.getElem?_eq_getElem hi',
    Option.map_some, Option.some.injEq, Prod.mk.injEq] at hword
  exact ⟨hword.1, hword.2, i, List.getElem?_eq_getElem hi, List.getElem?_eq_getElem hi'⟩

/-! ## Changing spacing -/

namespace Token

variable {a b before gap after source : Text} {ts : List Token}

theorem Cuts.words_eq (h : Cuts source 0 ts) : words source =
    (ts.filter fun t => t.kind ≠ .whitespace).map (fun t => (t.kind, t.text source)) ++
      [(.eof, [])] := by
  have htext : (⟨.eof, source.length, 1⟩ : Token).text source = [] := by
    rw [text_eq (n := 1) rfl rfl, List.drop_length, List.take_nil]
  unfold words
  rw [h.significant_eq, List.map_append, List.map_singleton, htext]

/-- Where no run goes on across the seam, the words of two texts put together are those of
the one, without its end, and those of the other. -/
theorem words_append (h : a.Seam b) : words (a ++ b) = (words a).dropLast ++ words b := by
  obtain ⟨ts, hts⟩ := exists_cuts (Nat.zero_le a.length)
  obtain ⟨us, hus⟩ := exists_cuts (Nat.zero_le b.length)
  rw [(hts.append hus h).words_eq, hts.words_eq, hus.words_eq, List.dropLast_concat,
    List.filter_append, List.map_append, List.append_assoc, List.filter_map, List.map_map]
  congr 1
  · refine List.map_congr_left fun t ht => ?_
    rw [hts.text_append (List.mem_filter.mp ht).1]
  · congr 1
    refine List.map_congr_left fun t ht => ?_
    show ((t.shifted a.length).kind, (t.shifted a.length).text (a ++ b)) = _
    rw [hus.text_shifted (List.mem_filter.mp ht).1]
    rfl

theorem words_of_spacing (hgap : ∀ c ∈ gap, isSpacing c = true) : words gap = [(.eof, [])] := by
  obtain ⟨ts, hts⟩ := exists_cuts (Nat.zero_le gap.length)
  have hspace (t : Token) (ht : t ∈ ts) : t.kind = .whitespace := by
    have hspells := hts.spells t ht
    cases htext : t.text gap with
    | nil => exact absurd htext hspells.nonempty
    | cons c s =>
        have hc : c ∈ gap := by
          have hmem : c ∈ t.text gap := by rw [htext]; exact List.mem_cons_self
          exact List.mem_of_mem_take (List.mem_of_mem_drop hmem)
        rw [htext] at hspells
        exact (hspells.of_spacing (hgap c hc)).1
  rw [hts.words_eq, List.filter_eq_nil_iff.mpr (by simpa using hspace)]
  rfl

theorem words_gap_of_tight (hgap : ∀ c ∈ gap, isSpacing c = true)
    (hbefore : ∀ c ∈ before.getLast?, isSpacing c = false)
    (hafter : ∀ d ∈ after.head?, isSpacing d = false)
    (hparted : ∀ c ∈ before.getLast?, ∀ d ∈ after.head?, isNumeric c = true →
      isNumeric d = true → gap ≠ []) :
    words (before ++ gap ++ after) = (words before).dropLast ++ words after := by
  by_cases hnil : gap = []
  · rw [hnil, List.append_nil]
    refine words_append ⟨fun c _ d hd _ => hafter d hd, fun c hc d hd hnumeric => ?_⟩
    by_contra hd'
    exact hparted c hc d hd hnumeric (by simpa using hd') hnil
  · have hlast : (before ++ gap).getLast? = gap.getLast? := by
      rw [List.getLast?_append_of_ne_nil _ hnil]
    have hleft : before.Seam gap := by
      refine ⟨fun c hc d _ hspacing => ?_, fun c _ d hd _ => ?_⟩
      · rw [hbefore c hc] at hspacing
        cases hspacing
      · exact TokenKind.isNumeric_of_isSpacing (hgap d (List.mem_of_head? hd))
    have hright : (before ++ gap).Seam after := by
      refine ⟨fun c _ d hd _ => hafter d hd, fun c hc d _ hnumeric => ?_⟩
      rw [hlast] at hc
      rw [TokenKind.isNumeric_of_isSpacing (hgap c (List.mem_of_getLast? hc))] at hnumeric
      cases hnumeric
    rw [words_append hright, words_append hleft, words_of_spacing hgap, List.dropLast_concat]

theorem exists_trailing_spacing (a : Text) : ∃ front gap, a = front ++ gap ∧
    (∀ c ∈ gap, isSpacing c = true) ∧ ∀ c ∈ front.getLast?, isSpacing c = false := by
  refine ⟨a.rdropWhile isSpacing, a.rtakeWhile isSpacing,
    (List.rdropWhile_append_rtakeWhile ..).symm, fun c hc => List.mem_rtakeWhile_imp hc, ?_⟩
  intro c hc
  obtain ⟨hne, rfl⟩ := List.mem_getLast?_eq_getLast hc
  simpa using List.rdropWhile_last_not isSpacing a hne

theorem exists_leading_spacing (a : Text) : ∃ gap back, a = gap ++ back ∧
    (∀ c ∈ gap, isSpacing c = true) ∧ ∀ c ∈ back.head?, isSpacing c = false := by
  refine ⟨a.takeWhile isSpacing, a.dropWhile isSpacing, List.takeWhile_append_dropWhile.symm,
    fun c hc => List.mem_takeWhile_imp hc, fun c hc => ?_⟩
  have hfirst := List.head?_dropWhile_not isSpacing a
  rw [hc] at hfirst
  simpa using hfirst

/-- Spacing between two texts leaves their words alone. It may be missing where nothing but
it keeps two runs of digits and points apart. -/
theorem words_gap (hgap : ∀ c ∈ gap, isSpacing c = true)
    (hparted : ∀ c ∈ before.getLast?, ∀ d ∈ after.head?, isNumeric c = true →
      isNumeric d = true → gap ≠ []) :
    words (before ++ gap ++ after) = (words before).dropLast ++ words after := by
  obtain ⟨front, left, rfl, hleft, hfront⟩ := exists_trailing_spacing before
  obtain ⟨right, back, rfl, hright, hback⟩ := exists_leading_spacing after
  -- the spacing at both ends belongs to the gap
  have hmiddle : ∀ c ∈ left ++ gap ++ right, isSpacing c = true := by
    intro c hc
    rcases List.mem_append.mp hc with hc | hc
    · rcases List.mem_append.mp hc with hc | hc
      · exact hleft c hc
      · exact hgap c hc
    · exact hright c hc
  have hall := words_gap_of_tight hmiddle hfront hback fun c hc d hd hc' hd' hnil => by
    simp only [List.append_eq_nil_iff] at hnil
    obtain ⟨⟨rfl, hgap⟩, rfl⟩ := hnil
    rw [List.append_nil] at hparted
    exact hparted c hc d hd hc' hd' hgap
  have hbefore : words (front ++ left ++ []) = (words front).dropLast ++ words [] :=
    words_gap_of_tight hleft hfront (by simp) (by simp)
  have hafter : words ([] ++ right ++ back) = (words []).dropLast ++ words back :=
    words_gap_of_tight hright (by simp) hback (by simp)
  rw [List.append_nil] at hbefore
  rw [List.nil_append] at hafter
  have hblank : words [] = [(.eof, [])] := words_of_spacing (by simp)
  rw [hblank] at hbefore hafter
  rw [hbefore, hafter, List.dropLast_concat]
  simpa only [List.append_assoc, List.dropLast_singleton, List.nil_append] using hall

/-- Changing a gap changes no words. -/
theorem words_eq_of_respaced (h : a.Respaced b) : words a = words b := by
  cases h with
  | @edit before old new after hold hnew hapart =>
      by_cases hnil : old = [] ∧ new = []
      · rw [hnil.1, hnil.2]
      · rw [words_gap hold, words_gap hnew]
        all_goals
          intro c hc d hd hc' hd' hgap
          have hboth := hapart c hc d hd hc' hd'
          exact hnil (by simp_all)

theorem words_eq_of_respacings (h : Relation.ReflTransGen Text.Respaced a b) :
    words a = words b := by
  induction h with
  | refl => rfl
  | tail _ hlast ih => exact ih.trans (words_eq_of_respaced hlast)

end Token

/-! ## Parsing -/

/-- Parsers of the same strictness make the same tree of sources with the same words, or
fail with errors of the same kind that are about tokens with the same number, and whose
messages differ in the printed place only. Sources of which the one is the other with gaps
changed have the same words. -/
theorem Parser.parse_words (p q : Parser) (hstrict : p.strict = q.strict) :
    (∀ a b : Text, Token.words a = Token.words b →
      (∃ tree, ((parse a).run p).outcome = .ok tree ∧ ((parse b).run q).outcome = .ok tree) ∨
      ∃ (i : Nat) (t u : Token) (e f : Fault) (wording : Text),
        (Token.significant a)[i]? = some t ∧ (Token.significant b)[i]? = some u ∧
        ((parse a).run p).outcome = .error e ∧ ((parse b).run q).outcome = .error f ∧
        e.family = f.family ∧ e.offset? = some t.start ∧ f.offset? = some u.start ∧
        e.message = wording ++ Text.ofInt t.start ∧
        f.message = wording ++ Text.ofInt u.start) ∧
    ∀ a b : Text, Relation.ReflTransGen Text.Respaced a b → Token.words a = Token.words b := by
  refine ⟨fun a b hwords => ?_, fun a b => Token.words_eq_of_respacings⟩
  simp only [outcome_parse, ← hstrict]
  have hconcur := Scan.concur_parse p.strict (Token.twins_of_words hwords)
  generalize ha : Scan.parse a p.strict = x at hconcur ⊢
  generalize Scan.parse b p.strict = y at hconcur ⊢
  cases hconcur with
  | @ok tree tree' hsame => exact .inl ⟨tree, rfl, congrArg Except.ok hsame.symm⟩
  | @fault t u cause htwins hcause =>
      obtain ⟨i, ht, hu⟩ := htwins.index
      obtain ⟨family, wording, hplaced⟩ := hcause.wording
      obtain ⟨hfamily, hoffset, hmessage⟩ := hplaced t.start
      obtain ⟨hfamily', hoffset', hmessage'⟩ := hplaced u.start
      exact .inr ⟨i, t, u, _, _, wording, ht, hu, rfl, rfl, hfamily.trans hfamily'.symm,
        hoffset, hoffset', hmessage, hmessage'⟩
  | absent =>
      -- the end token is never passed, so that a token is always left
      rcases Scan.documented_of_parse ha with h | h | h <;> cases h

theorem Parser.parse_words_unknown :
    Token.words "8 - @ 2".toList = Token.words "8-@\t2".toList ∧
    ∃ (i : Nat) (t u : Token) (e f : Fault) (wording : Text),
      (Token.significant "8 - @ 2".toList)[i]? = some t ∧
      (Token.significant "8-@\t2".toList)[i]? = some u ∧
      ((parse "8 - @ 2".toList).run (new false)).outcome = .error e ∧
      ((parse "8-@\t2".toList).run (new false)).outcome = .error f ∧
      e.family = f.family ∧ e.offset? = some t.start ∧ f.offset? = some u.start ∧
      e.message = wording ++ Text.ofInt t.start ∧ f.message = wording ++ Text.ofInt u.start := by
  have hwords : Token.words "8 - @ 2".toList = Token.words "8-@\t2".toList := by decide +kernel
  refine ⟨hwords, ((parse_words (new false) (new false) rfl).1 _ _ hwords).resolve_left ?_⟩
  rintro ⟨tree, hparsed, -⟩
  have hfails : ((parse "8 - @ 2".toList).run (new false)).outcome.isOk = false := by
    decide +kernel
  rw [hparsed] at hfails
  cases hfails

end Reckoner
