import Mathlib.Data.List.Chain
import Reckoner.Proofs.SignificantTokens

/-!
# Tokenization (the one way to cut a text into tokens)

A text is cut into tokens from left to right, and every run of spacing, and of digits
and points, is taken whole. Here that is said without a scan: `Token.Cuts` asks that the
tokens cover the text without gap or overlap, that the text of each fits its kind
(`TokenKind.Spells`), and that no two neighbours are halves of one run.

* `Lexer.next_of_munch`: the lexer takes off whatever fits a kind and cannot go on
  (`Munch`). Every other fact about single tokens follows from this one.
* `Lexer.exists_munch`: something always fits.
* `Token.Cuts.drain_eq`: tokens that cut a text are the ones that the lexer takes off.
* `ofText_cuts`: the tokens of a text cut it, write it back, and are the only ones that
  do.
-/

namespace Reckoner

/-! ## Kinds and texts -/

/-- Some characters, all of one class. -/
structure Text.Run (p : Char → Bool) (s : Text) : Prop where
  nonempty : s ≠ []
  all : ∀ c ∈ s, p c = true

theorem Text.Run.head {p : Char → Bool} {c : Char} {s : Text} (h : Run p (c :: s)) :
    p c = true :=
  h.all c List.mem_cons_self

open Lexer (isSpacing isNumeric)

/-- Which texts are tokens, and of which kind. -/
inductive TokenKind.Spells : TokenKind → Text → Prop
  | single {c : Char} {k : TokenKind} : (c, k) ∈ singles → Spells k [c]
  | spacing {s : Text} : s.Run isSpacing → Spells .whitespace s
  | number {s : Text} : s.Run isNumeric → s.count '.' ≤ 1 → Spells .number s
  | malformed {s : Text} : s.Run isNumeric → 1 < s.count '.' → Spells .unknown s
  | stray {c : Char} : (∀ k, (c, k) ∉ singles) → isSpacing c = false → isNumeric c = false →
      Spells .unknown [c]

namespace TokenKind

/-- A character that is a token by itself belongs to no run. -/
theorem classes_of_mem_singles {c : Char} {k : TokenKind} (h : (c, k) ∈ singles) :
    isSpacing c = false ∧ isNumeric c = false ∧ ofChar? c = some k := by
  simp only [singles, List.mem_cons, Prod.mk.injEq, List.not_mem_nil, or_false] at h
  rcases h with ⟨rfl, rfl⟩ | ⟨rfl, rfl⟩ | ⟨rfl, rfl⟩ | ⟨rfl, rfl⟩ | ⟨rfl, rfl⟩ | ⟨rfl, rfl⟩ |
    ⟨rfl, rfl⟩ <;> decide

theorem mem_singles_of_ofChar? {c : Char} {k : TokenKind} (h : ofChar? c = some k) :
    (c, k) ∈ singles := by
  obtain ⟨before, after, hsplit, -⟩ := List.lookup_eq_some_iff.mp h
  rw [hsplit]
  exact List.mem_append_right _ List.mem_cons_self

theorem ofChar?_of_not_mem {c : Char} (h : ∀ k, (c, k) ∉ singles) : ofChar? c = none := by
  cases hc : ofChar? c with
  | none => rfl
  | some k => exact absurd (mem_singles_of_ofChar? hc) (h k)

theorem isNumeric_of_isSpacing {c : Char} (h : isSpacing c = true) : isNumeric c = false := by
  simp only [isSpacing, Bool.or_eq_true, beq_iff_eq] at h
  rcases h with ((rfl | rfl) | rfl) | rfl <;> decide

theorem isSpacing_of_isNumeric {c : Char} (h : isNumeric c = true) : isSpacing c = false := by
  cases hspacing : isSpacing c with
  | false => rfl
  | true =>
      rw [isNumeric_of_isSpacing hspacing] at h
      cases h

theorem ofChar?_of_class {c : Char} (h : isSpacing c = true ∨ isNumeric c = true) :
    ofChar? c = none := by
  refine ofChar?_of_not_mem fun k hk => ?_
  obtain ⟨hspacing, hnumeric, -⟩ := classes_of_mem_singles hk
  rcases h with h | h
  · rw [hspacing] at h
    cases h
  · rw [hnumeric] at h
    cases h

namespace Spells

variable {k : TokenKind} {c : Char} {s : Text}

theorem nonempty (h : k.Spells s) : s ≠ [] := by
  cases h with
  | spacing hrun => exact hrun.nonempty
  | number hrun _ => exact hrun.nonempty
  | malformed hrun _ => exact hrun.nonempty
  | _ => exact List.cons_ne_nil _ _

theorem ne_eof (h : k.Spells s) : k ≠ .eof := by
  rintro rfl
  cases h with
  | single hmem => simp [singles] at hmem

/-- What begins with spacing is a run of spacing. -/
theorem of_spacing (h : k.Spells (c :: s)) (hc : isSpacing c = true) :
    k = .whitespace ∧ Text.Run isSpacing (c :: s) := by
  have hnumeric := isNumeric_of_isSpacing hc
  cases h with
  | single hmem =>
      rw [(classes_of_mem_singles hmem).1] at hc
      cases hc
  | spacing hrun => exact ⟨rfl, hrun⟩
  | number hrun _ =>
      rw [hrun.head] at hnumeric
      cases hnumeric
  | malformed hrun _ =>
      rw [hrun.head] at hnumeric
      cases hnumeric
  | stray _ hspacing _ =>
      rw [hspacing] at hc
      cases hc

/-- What begins with a digit or a point is a run of these, and its kind depends on how
many points there are. -/
theorem of_numeric (h : k.Spells (c :: s)) (hc : isNumeric c = true) :
    k = Lexer.numericKind (c :: s) ∧ Text.Run isNumeric (c :: s) := by
  cases h with
  | single hmem =>
      rw [(classes_of_mem_singles hmem).2.1] at hc
      cases hc
  | spacing hrun =>
      rw [isNumeric_of_isSpacing hrun.head] at hc
      cases hc
  | number hrun hpoints =>
      refine ⟨?_, hrun⟩
      unfold Lexer.numericKind
      rw [if_neg (Nat.not_lt.mpr hpoints)]
  | malformed hrun hpoints =>
      refine ⟨?_, hrun⟩
      unfold Lexer.numericKind
      rw [if_pos hpoints]
  | stray _ _ hnumeric =>
      rw [hnumeric] at hc
      cases hc

/-- What begins with anything else is one character. -/
theorem of_neither (h : k.Spells (c :: s)) (hspacing : isSpacing c = false)
    (hnumeric : isNumeric c = false) : s = [] ∧ k = (ofChar? c).getD .unknown := by
  cases h with
  | single hmem => exact ⟨rfl, by rw [(classes_of_mem_singles hmem).2.2]; rfl⟩
  | spacing hrun =>
      rw [hrun.head] at hspacing
      cases hspacing
  | number hrun _ =>
      rw [hrun.head] at hnumeric
      cases hnumeric
  | malformed hrun _ =>
      rw [hrun.head] at hnumeric
      cases hnumeric
  | stray hsingles _ _ => exact ⟨rfl, by rw [ofChar?_of_not_mem hsingles]; rfl⟩

end Spells

end TokenKind

/-! ## Taking one token off -/

/-- A text is `w`, which fits the kind `k`, and `more`, with which no run in `w` goes
on. -/
structure Text.Munch (s : Text) (k : TokenKind) (w more : Text) : Prop where
  split : s = w ++ more
  spells : k.Spells w
  spacing : w.Run isSpacing → ∀ c ∈ more.head?, isSpacing c = false
  numeric : w.Run isNumeric → ∀ c ∈ more.head?, isNumeric c = false

namespace Lexer

variable {l : Lexer} {k : TokenKind} {w more : Text}

theorem takeWhile_of_run {p : Char → Bool} (hw : w.Run p) (hmore : ∀ c ∈ more.head?, p c = false) :
    (w ++ more).takeWhile p = w := by
  rw [List.takeWhile_append_of_pos hw.all]
  cases more with
  | nil => exact List.append_nil w
  | cons c more =>
      rw [List.takeWhile_cons_of_neg, List.append_nil]
      simp [hmore c rfl]

/-- The next token is what fits a kind and cannot go on. -/
theorem next_of_munch (h : l.rest.Munch k w more) :
    l.next = (⟨k, l.position, w.length⟩, l.advance w.length) := by
  obtain ⟨hsplit, hspells, hspacing, hnumeric⟩ := h
  cases w with
  | nil => exact absurd rfl hspells.nonempty
  | cons c s =>
      have hrest : l.rest = c :: (s ++ more) := hsplit
      unfold next
      rw [hrest]
      dsimp only
      by_cases hc : isSpacing c = true
      · obtain ⟨rfl, hrun⟩ := hspells.of_spacing hc
        rw [TokenKind.ofChar?_of_class (.inl hc)]
        dsimp only
        rw [if_pos hc]
        unfold spacing
        rw [hsplit, takeWhile_of_run hrun (hspacing hrun)]
      by_cases hc' : isNumeric c = true
      · obtain ⟨rfl, hrun⟩ := hspells.of_numeric hc'
        rw [TokenKind.ofChar?_of_class (.inr hc')]
        dsimp only
        rw [if_neg hc, if_pos hc']
        unfold numeric
        rw [hsplit, takeWhile_of_run hrun (hnumeric hrun)]
      · obtain ⟨rfl, rfl⟩ := hspells.of_neither (by simpa using hc) (by simpa using hc')
        cases TokenKind.ofChar? c with
        | some kind => rfl
        | none =>
            dsimp only
            rw [if_neg hc, if_neg hc']
            rfl

theorem next_of_nil (h : l.rest = []) : l.next = (⟨.eof, l.limit, 1⟩, l) := by
  unfold next
  rw [h]

/-- Behind the longest run there is nothing that it could go on with. -/
theorem exists_run {p : Char → Bool} {c : Char} {s : Text} (hc : p c = true) :
    ∃ w more : Text, c :: s = w ++ more ∧ w.Run p ∧ ∀ d ∈ more.head?, p d = false := by
  refine ⟨(c :: s).takeWhile p, (c :: s).dropWhile p, List.takeWhile_append_dropWhile.symm,
    ⟨?_, List.all_eq_true.mp List.all_takeWhile⟩, ?_⟩
  · rw [List.takeWhile_cons_of_pos hc]
    exact List.cons_ne_nil _ _
  · intro d hd
    have hstop := List.head?_dropWhile_not p (c :: s)
    rw [Option.mem_def.mp hd] at hstop
    exact hstop

/-- From every text that is not empty a token can be taken off. -/
theorem exists_munch {s : Text} (hs : s ≠ []) : ∃ k w more, s.Munch k w more := by
  have hdisjoint {w : Text} (hspacing : w.Run isSpacing) (hnumeric : w.Run isNumeric) : False := by
    obtain ⟨c, hc⟩ := List.exists_mem_of_ne_nil w hspacing.nonempty
    have hnot := TokenKind.isNumeric_of_isSpacing (hspacing.all c hc)
    rw [hnumeric.all c hc] at hnot
    cases hnot
  cases s with
  | nil => exact absurd rfl hs
  | cons c s =>
      by_cases hspacing : isSpacing c = true
      · obtain ⟨w, more, hsplit, hrun, hstop⟩ := exists_run (s := s) hspacing
        exact ⟨.whitespace, w, more, hsplit, .spacing hrun, fun _ => hstop,
          fun hnumeric => (hdisjoint hrun hnumeric).elim⟩
      by_cases hnumeric : isNumeric c = true
      · obtain ⟨w, more, hsplit, hrun, hstop⟩ := exists_run (s := s) hnumeric
        have hmunch {k : TokenKind} (hk : k.Spells w) : Text.Munch (c :: s) k w more :=
          ⟨hsplit, hk, fun hspacing => (hdisjoint hspacing hrun).elim, fun _ => hstop⟩
        by_cases hpoints : w.count '.' ≤ 1
        · exact ⟨.number, w, more, hmunch (.number hrun hpoints)⟩
        · exact ⟨.unknown, w, more, hmunch (.malformed hrun (Nat.not_le.mp hpoints))⟩
      · -- one character, which begins no run
        have hmunch {k : TokenKind} (hk : k.Spells [c]) : Text.Munch (c :: s) k [c] s :=
          ⟨rfl, hk, fun hrun => absurd hrun.head hspacing,
            fun hrun => absurd hrun.head hnumeric⟩
        cases hc : TokenKind.ofChar? c with
        | some k => exact ⟨k, [c], s, hmunch (.single (TokenKind.mem_singles_of_ofChar? hc))⟩
        | none =>
            refine ⟨.unknown, [c], s, hmunch (.stray (fun k hk => ?_) ?_ ?_)⟩
            · rw [(TokenKind.classes_of_mem_singles hk).2.2] at hc
              cases hc
            · simpa using hspacing
            · simpa using hnumeric

end Lexer

/-! ## Whole texts -/

namespace Token

/-- Tokens of at least the length `least` that cover the places from `i` up to `j`, each
beginning where the one before it ends. -/
inductive Spanning (least : Int) : Int → Int → List Token → Prop
  | nil (i : Int) : Spanning least i i []
  | cons {t : Token} {rest : List Token} {j : Int} : least ≤ t.length →
      Spanning least (t.start + t.length) j rest → Spanning least t.start j (t :: rest)

/-- Tokens that cover the places from `i` up to `j`, none of them empty. -/
abbrev Tiling : Int → Int → List Token → Prop := Spanning 1

/-- Two tokens that are no halves of one run. -/
def Apart (source : Text) (t u : Token) : Prop :=
  ¬ ((t.text source).Run isSpacing ∧ (u.text source).Run isSpacing) ∧
    ¬ ((t.text source).Run isNumeric ∧ (u.text source).Run isNumeric)

/-- Tokens that cut a text from place `i` on. -/
structure Cuts (source : Text) (i : Nat) (tokens : List Token) : Prop where
  tiling : Tiling i source.length tokens
  spells : ∀ t ∈ tokens, t.kind.Spells (t.text source)
  apart : tokens.IsChain (Apart source)

/-- Write tokens into one buffer, one behind the other, and tell of each whether it could
be written. -/
def appendAll (source : Text) : List Token → Text → List Bool × Text
  | [], buffer => ([], buffer)
  | t :: rest, buffer =>
    let (written, longer) := t.appendTo source buffer
    let (others, last) := appendAll source rest longer
    (written :: others, last)

variable {source : Text} {t : Token} {i n : Nat}

namespace Spanning

variable {least i j k : Int} {ts us : List Token}

theorem eq_of_nil (h : Spanning least i j []) : i = j := by
  cases h
  rfl

theorem le (h : Spanning least i j ts) (hleast : 0 ≤ least) : i ≤ j := by
  induction h with
  | nil => exact Int.le_refl _
  | cons hlength _ ih => omega

theorem append (h : Spanning least i j ts) (h' : Spanning least j k us) :
    Spanning least i k (ts ++ us) := by
  induction h with
  | nil => exact h'
  | cons hlength _ ih => exact .cons hlength (ih h')

theorem split (h : Spanning least i k (ts ++ us)) :
    ∃ j, Spanning least i j ts ∧ Spanning least j k us := by
  induction ts generalizing i with
  | nil => exact ⟨i, .nil i, h⟩
  | cons t ts ih =>
      cases h with
      | cons hlength hrest =>
          obtain ⟨j, hts, hus⟩ := ih hrest
          exact ⟨j, .cons hlength hts, hus⟩

/-- A first token and the tokens behind it, in terms of natural numbers. -/
theorem cons_elim {t : Token} {i j : Nat} (h : Spanning least i j (t :: ts))
    (hleast : 0 ≤ least) : ∃ n : Nat, t = ⟨t.kind, i, n⟩ ∧ least ≤ n ∧ i + n ≤ j ∧
      Spanning least (i + n : Nat) j ts := by
  obtain ⟨hstart, hlength, hrest⟩ :
      t.start = i ∧ least ≤ t.length ∧ Spanning least (t.start + t.length) j ts := by
    generalize hi : (i : Int) = start at h
    cases h with
    | cons hlength hrest => exact ⟨rfl, hlength, hrest⟩
  have hle := hrest.le hleast
  refine ⟨t.length.toNat, ?_, by omega, by omega, ?_⟩
  · cases t
    simp only [mk.injEq, true_and]
    simp only at hstart hlength
    omega
  · rw [show ((i + t.length.toNat : Nat) : Int) = t.start + t.length by omega]
    exact hrest

end Spanning

theorem text_eq (hstart : t.start = i) (hlength : t.length = n) :
    t.text source = (source.drop i).take n := by
  unfold text
  rw [hstart, hlength]
  exact source.slice_natCast i n

theorem text_of_munch {k : TokenKind} {w more : Text}
    (h : Text.Munch (source.drop i) k w more) : (⟨k, i, w.length⟩ : Token).text source = w := by
  rw [text_eq rfl rfl, h.split]
  exact List.take_left

/-- Tokens side by side spell what they cover, as far as there is a source. -/
theorem Spanning.flatten_texts {least : Int} (hleast : 0 ≤ least) {ts : List Token} {i j : Nat}
    (h : Spanning least i j ts) (source : Text) :
    (ts.map (·.text source)).flatten = (source.drop i).take (j - i) := by
  induction ts generalizing i with
  | nil =>
      have hend := Int.ofNat_inj.mp h.eq_of_nil
      simp [hend]
  | cons t ts ih =>
      obtain ⟨n, ht, -, hle, hrest⟩ := h.cons_elim hleast
      rw [List.map_cons, List.flatten_cons, ih hrest, ht, text_eq rfl rfl,
        show j - i = n + (j - (i + n)) by omega, List.take_add, List.drop_drop]

/-- The first token of a tiling is not empty. -/
theorem Tiling.cons_elim {rest : List Token} (h : Tiling i source.length (t :: rest)) :
    ∃ n : Nat, t = ⟨t.kind, i, n⟩ ∧ 0 < n ∧ i + n ≤ source.length ∧
      t.text source = (source.drop i).take n ∧ Tiling (i + n : Nat) source.length rest := by
  obtain ⟨n, ht, hpos, hle, hrest⟩ := Spanning.cons_elim h (by decide)
  refine ⟨n, ht, by omega, hle, ?_, hrest⟩
  rw [ht]
  exact text_eq rfl rfl

/-- The first token begins with the first character. -/
theorem Cuts.head {rest : List Token} (h : Cuts source i (t :: rest)) :
    ∃ c s more, t.text source = c :: s ∧ source.drop i = c :: more := by
  obtain ⟨n, -, hpos, -, htext, -⟩ := h.tiling.cons_elim
  have hne := (h.spells t List.mem_cons_self).nonempty
  cases hdrop : source.drop i with
  | nil =>
      rw [hdrop, List.take_nil] at htext
      exact absurd htext hne
  | cons c more =>
      rw [hdrop, List.take_cons hpos] at htext
      exact ⟨c, more.take (n - 1), more, htext, rfl⟩

/-- What cuts a text cuts it behind the first token. -/
theorem Cuts.tail {rest : List Token} (h : Cuts source i (t :: rest)) {n : Nat}
    (hrest : Tiling (i + n : Nat) source.length rest) : Cuts source (i + n) rest :=
  ⟨hrest, fun u hu => h.spells u (List.mem_cons_of_mem _ hu), (List.isChain_cons.mp h.apart).2⟩

/-- The first of some tokens that cut a text is the longest that can be taken off. -/
theorem Cuts.munch {rest : List Token} (h : Cuts source i (t :: rest)) :
    ∃ n : Nat, t = ⟨t.kind, i, n⟩ ∧ (t.text source).length = n ∧ 0 < n ∧
      i + n ≤ source.length ∧ Cuts source (i + n) rest ∧
      Text.Munch (source.drop i) t.kind (t.text source) (source.drop (i + n)) := by
  obtain ⟨n, ht, hpos, hle, htext, hrest⟩ := h.tiling.cons_elim
  have htail := h.tail hrest
  -- the next character begins the next token, which is apart from this one
  have hnext : ∀ c ∈ (source.drop (i + n)).head?,
      ∃ u s, u.text source = c :: s ∧ u.kind.Spells (c :: s) ∧ Apart source t u := by
    intro c hc
    cases rest with
    | nil =>
        have hend := hrest.eq_of_nil
        rw [List.drop_eq_nil_of_le (by omega)] at hc
        cases hc
    | cons u rest =>
        obtain ⟨d, s, more, hu, hdrop⟩ := htail.head
        rw [hdrop] at hc
        obtain rfl : d = c := Option.some.inj hc
        refine ⟨u, s, hu, ?_, (List.isChain_cons_cons.mp h.apart).1⟩
        rw [← hu]
        exact htail.spells u List.mem_cons_self
  refine ⟨n, ht, ?_, hpos, hle, htail, ?_, h.spells t List.mem_cons_self, ?_, ?_⟩
  · rw [htext, List.length_take, List.length_drop]
    omega
  · rw [htext, ← List.drop_drop]
    exact (List.take_append_drop n _).symm
  · intro hrun c hc
    obtain ⟨u, s, hu, hspells, hapart⟩ := hnext c hc
    refine Bool.eq_false_iff.mpr fun hspacing => hapart.1 ⟨hrun, ?_⟩
    rw [hu]
    exact (hspells.of_spacing hspacing).2
  · intro hrun c hc
    obtain ⟨u, s, hu, hspells, hapart⟩ := hnext c hc
    refine Bool.eq_false_iff.mpr fun hnumeric => hapart.2 ⟨hrun, ?_⟩
    rw [hu]
    exact (hspells.of_numeric hnumeric).2

/-- A token that takes off as much as it can, in front of tokens that cut what is
left. -/
theorem Cuts.cons {k : TokenKind} {w more : Text} {rest : List Token}
    (hmunch : Text.Munch (source.drop i) k w more) (h : Cuts source (i + w.length) rest) :
    Cuts source i (⟨k, i, w.length⟩ :: rest) := by
  have hne := hmunch.spells.nonempty
  have htext := text_of_munch hmunch
  have hmore : source.drop (i + w.length) = more := by
    rw [← List.drop_drop, hmunch.split]
    exact List.drop_left
  refine ⟨?_, ?_, List.isChain_cons.mpr ⟨?_, h.apart⟩⟩
  · have hpos : 0 < w.length := List.length_pos_iff.mpr hne
    exact .cons (t := ⟨k, i, w.length⟩) (by simp only; omega) h.tiling
  · intro t ht
    rcases List.mem_cons.mp ht with rfl | hmem
    · rw [htext]
      exact hmunch.spells
    · exact h.spells t hmem
  · intro u hu
    cases rest with
    | nil => cases hu
    | cons v rest =>
        obtain rfl : v = u := Option.some.inj hu
        obtain ⟨c, s, others, hv, hdrop⟩ := h.head
        have hc : c ∈ more.head? := by
          rw [← hmore, hdrop]
          exact rfl
        unfold Apart
        rw [htext, hv]
        constructor
        · rintro ⟨hw, hrun⟩
          have hstop := hmunch.spacing hw c hc
          rw [hrun.head] at hstop
          cases hstop
        · rintro ⟨hw, hrun⟩
          have hstop := hmunch.numeric hw c hc
          rw [hrun.head] at hstop
          cases hstop

/-- Every text can be cut from every place on. -/
theorem exists_cuts (hi : i ≤ source.length) : ∃ tokens, Cuts source i tokens := by
  obtain ⟨left, hleft⟩ : ∃ left, left = source.length - i := ⟨_, rfl⟩
  induction left using Nat.strongRecOn generalizing i with
  | ind left ih =>
      by_cases hend : i = source.length
      · refine ⟨[], ?_, ?_, .nil⟩
        · rw [hend]
          exact .nil _
        · intro t ht
          cases ht
      · have hne : source.drop i ≠ [] := by
          intro hnil
          have hle := List.drop_eq_nil_iff.mp hnil
          omega
        obtain ⟨k, w, more, hmunch⟩ := Lexer.exists_munch hne
        have hpos : 0 < w.length := List.length_pos_iff.mpr hmunch.spells.nonempty
        have hlength : source.length - i = w.length + more.length := by
          rw [← List.length_drop, hmunch.split, List.length_append]
        obtain ⟨rest, hrest⟩ := ih (source.length - (i + w.length)) (by omega) (by omega) rfl
        exact ⟨_, hrest.cons hmunch⟩

/-- Tokens that cut a text are those that the lexer takes off it. -/
theorem Cuts.drain_eq {l : Lexer} {tokens : List Token} (hlimit : l.limit = l.source.length)
    (h : Cuts l.source l.position tokens) : l.drain.1 = tokens ++ [⟨.eof, l.source.length, 1⟩] := by
  induction tokens generalizing l with
  | nil =>
      have hend := h.tiling.eq_of_nil
      have hnext := Lexer.next_of_nil (l := l) (List.drop_eq_nil_of_le (by omega))
      rw [Lexer.drain_of_eof (by rw [hnext]), hnext, hlimit]
      rfl
  | cons t rest ih =>
      obtain ⟨n, ht, hlength, -, -, hrest, hmunch⟩ := h.munch
      have hnext : l.next = (t, l.advance n) := by
        rw [Lexer.next_of_munch hmunch, hlength, ← ht]
      have hkind : l.next.1.kind ≠ .eof := by
        rw [hnext]
        exact hmunch.spells.ne_eof
      rw [Lexer.drain_of_ne_eof hkind, hnext]
      show t :: (l.advance n).drain.1 = _
      rw [ih (l := l.advance n) hlimit hrest]
      rfl

/-- Tokens that cut a text write back what they cut. -/
theorem Cuts.appendAll_eq {tokens : List Token} (h : Cuts source i tokens) (buffer : Text) :
    appendAll source tokens buffer = (tokens.map fun _ => true, buffer ++ source.drop i) := by
  induction tokens generalizing i buffer with
  | nil =>
      have hend := h.tiling.eq_of_nil
      rw [List.drop_eq_nil_of_le (by omega), List.append_nil]
      rfl
  | cons t rest ih =>
      obtain ⟨n, ht, -, hpos, hle, hrest, hmunch⟩ := h.munch
      have hspelling : t.spelling? source = some (t.text source) := by
        unfold spelling?
        rw [if_neg]
        rw [ht]
        simp only
        omega
      have happend : t.appendTo source buffer = (true, buffer ++ t.text source) := by
        unfold appendTo
        rw [hspelling]
      unfold appendAll
      rw [happend]
      dsimp only
      rw [ih hrest, hmunch.split, List.append_assoc]
      rfl

/-- The tokens of a text are its pieces from the first character to the last, each of the
kind that fits it and as long as it can be, and the end token behind them. Put together
they give the text again, and no other tokens cut it in this way. -/
theorem ofText_cuts (source : Text) :
    ∃ body, ofText source = body ++ [⟨.eof, source.length, 1⟩] ∧
      Cuts source 0 body ∧ (∀ t ∈ body, t.kind ≠ .eof) ∧
      (∀ buffer, appendAll source body buffer = (body.map fun _ => true, buffer ++ source)) ∧
      (∀ buffer, (⟨.eof, source.length, 1⟩ : Token).appendTo source buffer = (false, buffer)) ∧
      ∀ others, Cuts source 0 others → others = body := by
  obtain ⟨body, hbody⟩ := exists_cuts (Nat.zero_le source.length)
  have hdrain {tokens : List Token} (h : Cuts source 0 tokens) :
      ofText source = tokens ++ [⟨.eof, source.length, 1⟩] :=
    Cuts.drain_eq (l := .ofText source) rfl h
  refine ⟨body, hdrain hbody, hbody, ?_, fun buffer => hbody.appendAll_eq buffer, ?_, ?_⟩
  · intro t ht
    exact (hbody.spells t ht).ne_eof
  · intro buffer
    unfold appendTo spelling?
    rw [if_pos (.inl (Int.le_refl _))]
  · intro others hothers
    exact List.append_cancel_right ((hdrain hothers).symm.trans (hdrain hbody))

/-- One point too many spoils a whole run, and a run of spacing is one token. -/
example : ofText "1.2.3 \t+" =
    [⟨.unknown, 0, 5⟩, ⟨.whitespace, 5, 2⟩, ⟨.plus, 7, 1⟩, ⟨.eof, 8, 1⟩] := by decide +kernel

end Token

end Reckoner
