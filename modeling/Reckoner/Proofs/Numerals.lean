import Reckoner.Lexer
import Reckoner.Number.Numeral

/-!
# Reading plain numerals (runs of digits and points)

`Number.read?` accepts signs, blanks, underscores, powers of ten and words. None of them
can occur in what the lexer takes for a number, a run of digits and points with at most
one point. On such a run every step of reading but the last leaves the run as it is, and
the last asks for a digit: `read?_run_eq_none_iff` says that the lone point is the one
run that is no numeral.
-/

namespace Reckoner.Number

open Lexer (isNumeric)

/-! ## Characters of a run -/

/-- The characters of a run are the ten digits and the point. -/
theorem isNumeric_iff {c : Char} :
    isNumeric c = true ↔ (48 ≤ c.toNat ∧ c.toNat ≤ 57) ∨ c = '.' := by
  unfold Lexer.isNumeric
  simp only [Bool.or_eq_true, Bool.and_eq_true, decide_eq_true_eq, beq_iff_eq, Char.le_def,
    UInt32.le_iff_toNat_le]
  rfl

theorem toNat_of_isNumeric {c : Char} (h : isNumeric c = true) :
    46 ≤ c.toNat ∧ c.toNat ≤ 57 := by
  rcases isNumeric_iff.mp h with h | rfl
  · omega
  · decide

theorem isDigit_of_isNumeric {c : Char} (h : isNumeric c = true) (hpoint : c ≠ '.') :
    isDigit c = true := by
  unfold Lexer.isNumeric at h
  simpa [isDigit, hpoint] using h

theorem plain?_of_isNumeric {c : Char} (h : isNumeric c = true) : plain? c = some c := by
  have hrange := toNat_of_isNumeric h
  unfold plain?
  rw [if_pos (by omega)]

theorem not_isAsciiBlank_of_isNumeric {c : Char} (h : isNumeric c = true) :
    Text.isAsciiBlank c = false := by
  have hrange := toNat_of_isNumeric h
  have hspace : c ≠ ' ' := by
    rintro rfl
    exact absurd hrange.1 (by decide)
  unfold Text.isAsciiBlank
  simp only [Bool.or_eq_false_iff, beq_eq_false_iff_ne, Bool.and_eq_false_iff,
    decide_eq_false_iff_not]
  exact ⟨hspace, .inr (by omega)⟩

theorem toLower_of_isNumeric {c : Char} (h : isNumeric c = true) : c.toLower = c := by
  have hrange := toNat_of_isNumeric h
  unfold Char.toLower
  rw [dif_neg]
  rintro ⟨hcapital, -⟩
  have : 65 ≤ c.toNat := UInt32.le_iff_toNat_le.mp hcapital
  omega

/-! ## The steps of reading -/

section

variable {run : Text} (hrun : ∀ c ∈ run, isNumeric c = true)

include hrun

theorem mapM_plain?_run : run.mapM plain? = some run := by
  induction run with
  | nil => rfl
  | cons c run ih =>
      rw [List.mapM_cons, plain?_of_isNumeric (hrun c List.mem_cons_self),
        ih fun d hd => hrun d (List.mem_cons_of_mem _ hd)]
      rfl

theorem dropWhile_blank_run : run.dropWhile Text.isAsciiBlank = run := by
  cases run with
  | nil => rfl
  | cons c run =>
      rw [List.dropWhile_cons_of_neg]
      simp [not_isAsciiBlank_of_isNumeric (hrun c List.mem_cons_self)]

theorem withoutUnderscores?_run (afterDigit : Bool) :
    withoutUnderscores? afterDigit run = some run := by
  induction run generalizing afterDigit with
  | nil => rfl
  | cons c run ih =>
      have hc : c ≠ '_' := by
        rintro rfl
        exact absurd (hrun _ List.mem_cons_self) (by decide)
      rw [withoutUnderscores?, if_neg (by simpa using hc),
        ih (fun d hd => hrun d (List.mem_cons_of_mem _ hd))]
      · rfl
      · rintro d rest rfl
        exact absurd rfl hc

theorem signed_run : signed run = (false, run) := by
  cases run with
  | nil => rfl
  | cons c run =>
      have hrange := toNat_of_isNumeric (hrun c List.mem_cons_self)
      unfold signed
      split
      · rename_i rest hcons
        obtain ⟨rfl, -⟩ := List.cons.inj hcons
        exact absurd hrange.1 (by decide)
      · rename_i rest hcons
        obtain ⟨rfl, -⟩ := List.cons.inj hcons
        exact absurd hrange.1 (by decide)
      · rfl

/-- No word for a number is a run: all of them have letters. -/
theorem word?_run : word? run = none := by
  have hsmall : run.map Char.toLower = run := by
    rw [List.map_congr_left fun c hc => toLower_of_isNumeric (hrun c hc), List.map_id']
  have hword : ∀ c ∈ ['i', 'n'], ∀ word : Text, c ∈ word → (run == word) = false := by
    intro c hc word hmem
    rw [beq_eq_false_iff_ne]
    rintro rfl
    have hnumeric := hrun c hmem
    revert hnumeric
    rcases List.mem_cons.mp hc with rfl | hc
    · decide
    · rw [List.mem_singleton.mp hc]
      decide
  unfold word?
  simp only [hsmall]
  rw [hword 'i' (by decide) "inf" (by decide), hword 'i' (by decide) "infinity" (by decide),
    hword 'n' (by decide) "nan" (by decide)]
  rfl

end

theorem trimOf_run {run : Text} (hrun : ∀ c ∈ run, isNumeric c = true) :
    Text.trimOf Text.isAsciiBlank run = run := by
  unfold Text.trimOf
  rw [dropWhile_blank_run hrun, dropWhile_blank_run (fun c hc => hrun c (List.mem_reverse.mp hc)),
    List.reverse_reverse]

/-- Behind the first point of a run there are digits only. -/
theorem isDigit_behind_point {whole fraction : Text}
    (hrun : ∀ c ∈ whole ++ '.' :: fraction, isNumeric c = true)
    (hpoints : (whole ++ '.' :: fraction).count '.' ≤ 1) :
    ∀ c ∈ fraction, isDigit c = true := by
  intro c hc
  refine isDigit_of_isNumeric (hrun c (by simp [hc])) ?_
  rintro rfl
  have hpos : 0 < fraction.count '.' := List.count_pos_iff.mpr hc
  rw [List.count_append, List.count_cons_self] at hpoints
  omega

theorem takeWhile_isDigit {s : Text} (h : ∀ c ∈ s, isDigit c = true) :
    s.takeWhile isDigit = s ∧ s.dropWhile isDigit = [] := by
  induction s with
  | nil => exact ⟨rfl, rfl⟩
  | cons c s ih =>
      have hc := h c List.mem_cons_self
      obtain ⟨htake, hdrop⟩ := ih fun d hd => h d (List.mem_cons_of_mem _ hd)
      rw [List.takeWhile_cons_of_pos hc, List.dropWhile_cons_of_pos hc, htake]
      exact ⟨rfl, hdrop⟩

theorem decimal?_eq_none_iff {run : Text} (hrun : ∀ c ∈ run, isNumeric c = true)
    (hpoints : run.count '.' ≤ 1) (hne : run ≠ []) : decimal? run = none ↔ run = ['.'] := by
  have hsplit : run.takeWhile isDigit ++ run.dropWhile isDigit = run :=
    List.takeWhile_append_dropWhile
  unfold decimal?
  cases hrest : run.dropWhile isDigit with
  | nil =>
      -- no point: the run is all digits, and it is not empty
      rw [hrest, List.append_nil] at hsplit
      have hdigits : (run.takeWhile isDigit).isEmpty = false := by
        rw [hsplit]
        simpa using hne
      simp only [hdigits, Bool.false_and, Bool.false_eq_true, if_false, power?, Option.map_some]
      constructor
      · intro h
        cases h
      · rintro rfl
        simp [isDigit] at hrest
  | cons c fraction =>
      have hc : c = '.' := by
        refine Decidable.byContradiction fun hpoint => ?_
        have hdigit : isDigit c = false := by
          have := List.head?_dropWhile_not isDigit run
          rw [hrest] at this
          simpa using this
        have hmem : c ∈ run := by
          rw [← hsplit, hrest]
          simp
        rw [isDigit_of_isNumeric (hrun c hmem) hpoint] at hdigit
        cases hdigit
      subst hc
      rw [hrest] at hsplit
      rw [← hsplit] at hrun hpoints
      obtain ⟨htake, hdrop⟩ := takeWhile_isDigit (isDigit_behind_point hrun hpoints)
      simp only [htake, hdrop, power?, Option.map_some]
      constructor
      · intro h
        split at h
        · rename_i hempty
          rw [Bool.and_eq_true, List.isEmpty_iff, List.isEmpty_iff] at hempty
          rw [← hsplit, hempty.1, hempty.2]
          rfl
        · cases h
      · rintro rfl
        obtain ⟨-, rfl⟩ := List.cons.inj hrest
        rfl

/-- Of the runs of digits and points that hold at most one point, the lone point alone
is no numeral. -/
theorem read?_run_eq_none_iff {run : Text} (hrun : ∀ c ∈ run, isNumeric c = true)
    (hpoints : run.count '.' ≤ 1) (hne : run ≠ []) : read? run = none ↔ run = ['.'] := by
  have hread : read? run = decimal? run := by
    unfold read?
    simp only [mapM_plain?_run hrun, trimOf_run hrun, withoutUnderscores?_run hrun,
      signed_run hrun, word?_run hrun, Option.none_or, Option.bind_eq_bind, Option.bind_some]
    cases decimal? run <;> rfl
  rw [hread, decimal?_eq_none_iff hrun hpoints hne]

end Reckoner.Number
