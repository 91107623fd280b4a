import Reckoner.Lexer

/-!
# Significant tokens (what a reader of the lexer gets to see)

Spacing separates tokens and is otherwise dropped. `significants` lists the tokens that
are left, up to and including the end token, and `significants_eq` unrolls that list by
one call of `significant`, so that whoever pulls tokens one by one reads the list from
left to right.

The end token comes last and only there (`significants_behind`). A number token spells a run of
digits and points with at most one point (`Legible`), which is all that is needed to
know what it is worth.
-/

namespace Reckoner

/-! ## The list of significant tokens -/

/-- The tokens ahead that are no spacing, up to and including the end token. -/
def Lexer.significants (l : Lexer) : List Token :=
  l.drain.1.filter fun t => t.kind ≠ .whitespace

/-- The tokens of a text that are no spacing, up to and including the end token. -/
def Token.significant (source : Text) : List Token :=
  (Token.ofText source).filter fun t => t.kind ≠ .whitespace

namespace Lexer

theorem drain_of_eof {l : Lexer} (h : l.next.1.kind = .eof) : l.drain.1 = [l.next.1] := by
  rw [drain, if_pos h]

theorem drain_of_ne_eof {l : Lexer} (h : l.next.1.kind ≠ .eof) :
    l.drain.1 = l.next.1 :: l.next.2.drain.1 := by
  rw [drain, if_neg h]

/-- Pulling the next significant token takes the head off the list; the end token is
never followed by anything. -/
theorem significants_eq (l : Lexer) :
    l.significants = l.significant.1 ::
      (if l.significant.1.kind = .eof then [] else l.significant.2.significants) := by
  fun_induction significant l with
  | case1 l hspace ih =>
      have hne : l.next.1.kind ≠ .eof := by rw [hspace]; decide
      rw [← ih]
      unfold significants
      rw [drain_of_ne_eof hne, List.filter_cons_of_neg (by simp [hspace])]
  | case2 l hspace =>
      unfold significants
      by_cases heof : l.next.1.kind = .eof
      · rw [drain_of_eof heof, if_pos heof, List.filter_cons_of_pos (by simpa using hspace)]
        rfl
      · rw [drain_of_ne_eof heof, if_neg heof,
          List.filter_cons_of_pos (by simpa using hspace)]

/-- The end token is the last one, and no other token is. -/
theorem significants_behind {l : Lexer} {before after : List Token} {t : Token}
    (h : l.significants = before ++ t :: after) : after = [] ↔ t.kind = .eof := by
  induction before generalizing l with
  | nil =>
      rw [significants_eq, List.nil_append, List.cons.injEq] at h
      rw [← h.1, ← h.2]
      split
      · rename_i heof
        exact iff_of_true rfl heof
      · rename_i hne
        rw [significants_eq]
        exact iff_of_false (List.cons_ne_nil _ _) hne
  | cons b before ih =>
      rw [significants_eq, List.cons_append, List.cons.injEq] at h
      by_cases hb : l.significant.1.kind = .eof
      · rw [if_pos hb] at h
        simp at h
      · rw [if_neg hb] at h
        exact ih h.2

end Lexer

/-! ## What a number token spells -/

/-- A number token spells a run of digits and points, with at most one point in it. -/
def Token.Legible (source : Text) (t : Token) : Prop :=
  t.kind = .number → t.spelling? source = some (t.text source) ∧ t.text source ≠ [] ∧
    (∀ c ∈ t.text source, Lexer.isNumeric c = true) ∧ (t.text source).count '.' ≤ 1

namespace Lexer

/-- The token that covers the run ahead spells that run. -/
theorem text_of_run (l : Lexer) (kind : TokenKind) (p : Char → Bool) :
    (⟨kind, l.position, (l.rest.takeWhile p).length⟩ : Token).text l.source =
      l.rest.takeWhile p := by
  show l.source.slice l.position (l.position + (l.rest.takeWhile p).length) = _
  rw [Text.slice_natCast]
  exact (List.prefix_iff_eq_take.mp (List.takeWhile_prefix p)).symm

theorem ofChar?_ne_number (c : Char) : TokenKind.ofChar? c ≠ some .number := by
  intro h
  obtain ⟨before, after, hsplit, -⟩ := List.lookup_eq_some_iff.mp h
  have hmem : (c, TokenKind.number) ∈ TokenKind.singles := by
    rw [hsplit]
    exact List.mem_append_right _ List.mem_cons_self
  simp [TokenKind.singles] at hmem

/-- A number token that the lexer takes off covers the run of digits and points ahead. -/
theorem next_of_number {l : Lexer} (h : l.next.1.kind = .number) :
    l.next.1 = l.numeric.1 ∧ l.rest.takeWhile isNumeric ≠ [] := by
  revert h
  unfold next
  split
  · simp
  · rename_i c cs hrest
    split
    · rename_i kind hkind
      intro h
      exact absurd (hkind.trans (congrArg some h)) (ofChar?_ne_number c)
    · split
      · simp [spacing]
      · split
        · rename_i hc
          intro _
          exact ⟨rfl, by simp [hrest, hc]⟩
        · simp [single]

theorem next_legible (l : Lexer) : l.next.1.Legible l.source := by
  intro h
  obtain ⟨hnext, hrun⟩ := next_of_number h
  have htext : l.next.1.text l.source = l.rest.takeWhile isNumeric := by
    rw [hnext]
    exact l.text_of_run _ isNumeric
  have hkind : numericKind (l.rest.takeWhile isNumeric) = .number := by
    rw [hnext] at h
    exact h
  rw [htext]
  refine ⟨?_, hrun, List.all_eq_true.mp List.all_takeWhile, ?_⟩
  · unfold Token.spelling?
    rw [htext, if_neg]
    rintro (hstart | hlength)
    · apply hrun
      have hle : l.source.length ≤ l.position := by
        rw [hnext] at hstart
        exact Int.ofNat_le.mp hstart
      rw [rest, List.drop_eq_nil_of_le hle]
      rfl
    · rw [hnext] at hlength
      exact hrun (List.length_eq_zero_iff.mp (Int.ofNat_eq_zero.mp hlength))
  · unfold numericKind at hkind
    split at hkind
    · cases hkind
    · omega

theorem next_source (l : Lexer) : l.next.2.source = l.source := by
  unfold next
  repeat' split
  all_goals rfl

theorem next_limit (l : Lexer) : l.next.2.limit = l.limit := by
  unfold next
  repeat' split
  all_goals rfl

theorem significant_source (l : Lexer) : l.significant.2.source = l.source := by
  fun_induction significant l with
  | case1 l _ ih => exact ih.trans l.next_source
  | case2 l _ => exact l.next_source

theorem significant_limit (l : Lexer) : l.significant.2.limit = l.limit := by
  fun_induction significant l with
  | case1 l _ ih => exact ih.trans l.next_limit
  | case2 l _ => exact l.next_limit

/-- Every number token ahead spells a run of digits and points. -/
theorem drain_legible (l : Lexer) : ∀ t ∈ l.drain.1, t.Legible l.source := by
  fun_induction drain l with
  | case1 l _ =>
      intro t ht
      rw [List.mem_singleton.mp ht]
      exact l.next_legible
  | case2 l _ tokens last hrest ih =>
      intro t ht
      rcases List.mem_cons.mp ht with rfl | hmem
      · exact l.next_legible
      · rw [hrest, l.next_source] at ih
        exact ih t hmem

theorem significants_legible (l : Lexer) : ∀ t ∈ l.significants, t.Legible l.source :=
  fun t ht => l.drain_legible t (List.mem_filter.mp ht).1

end Lexer

/-- The end token at least is among the significant ones. -/
theorem Token.significant_ne_nil (source : Text) : significant source ≠ [] := by
  show (Lexer.ofText source).significants ≠ []
  rw [Lexer.significants_eq]
  exact List.cons_ne_nil _ _

end Reckoner
