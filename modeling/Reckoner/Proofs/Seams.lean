import Reckoner.Proofs.Tokenization

/-!
# Seams (tokens of texts put together and cut apart)

Where a text ends and another begins, a run of spacing or of digits and points may go on
across the seam. If none does (`Text.Seam`), the tokens of the two texts together are those
of the one and then those of the other, moved on by the length of the first. If a text is
cut at the end of a token, the tokens before the cut are those of the part before it.

* `Token.Cuts.append`: what cuts two texts cuts the texts put together.
* `Token.Cuts.take`, `Token.Cuts.split`: what cuts a text cuts the part that it covers, and
  the rest of it, and there is a seam between them.
* `Token.ofText_compositional`: the tokens of two texts, and those ahead of any place.
* `Token.exists_cutOff`: a significant token and those before it stay what they are if the
  text is cut off at either end of it and goes on differently (`Token.CutOff`).
-/

namespace Reckoner

open Lexer (isSpacing isNumeric)

/-- No run of spacing, and none of digits and points, goes on from the end of the first
text to the beginning of the second. -/
structure Text.Seam (a b : Text) : Prop where
  spacing : ∀ c ∈ a.getLast?, ∀ d ∈ b.head?, isSpacing c = true → isSpacing d = false
  numeric : ∀ c ∈ a.getLast?, ∀ d ∈ b.head?, isNumeric c = true → isNumeric d = false

theorem Text.Seam.nil (b : Text) : Text.Seam [] b :=
  ⟨nofun, nofun⟩

/-- Only the last character of the first text matters. -/
theorem Text.Seam.of_getLast?_eq {a a' b : Text} (h : a'.Seam b)
    (hlast : a.getLast? = a'.getLast?) : a.Seam b := by
  constructor
  · rw [hlast]
    exact h.spacing
  · rw [hlast]
    exact h.numeric

/-- A token that ends with a character of a run is a run. -/
theorem TokenKind.Spells.run_of_getLast? {k : TokenKind} {w : Text} {c : Char}
    (h : k.Spells w) (hc : c ∈ w.getLast?) :
    (isSpacing c = true → w.Run isSpacing) ∧ (isNumeric c = true → w.Run isNumeric) := by
  have hmem := List.mem_of_getLast? hc
  have hspace (hrun : w.Run isNumeric) (hclass : isSpacing c = true) : w.Run isSpacing := by
    rw [isSpacing_of_isNumeric (hrun.all c hmem)] at hclass
    cases hclass
  cases h with
  | spacing hrun =>
      refine ⟨fun _ => hrun, fun hclass => ?_⟩
      rw [isNumeric_of_isSpacing (hrun.all c hmem)] at hclass
      cases hclass
  | number hrun _ => exact ⟨hspace hrun, fun _ => hrun⟩
  | malformed hrun _ => exact ⟨hspace hrun, fun _ => hrun⟩
  | single hsingle =>
      obtain ⟨hspacing, hnumeric, -⟩ := classes_of_mem_singles hsingle
      rw [List.mem_singleton.mp hmem, hspacing, hnumeric]
      exact ⟨nofun, nofun⟩
  | stray _ hspacing hnumeric =>
      rw [List.mem_singleton.mp hmem, hspacing, hnumeric]
      exact ⟨nofun, nofun⟩

/-- Only the first character of the second text matters. -/
theorem Text.Seam.of_head?_eq {a b b' : Text} (h : a.Seam b') (hfirst : b'.head? = b.head?) :
    a.Seam b := by
  constructor
  · rw [← hfirst]
    exact h.spacing
  · rw [← hfirst]
    exact h.numeric

namespace Token

/-- The token so many places further on. -/
def shifted (t : Token) (n : Nat) : Token := { t with start := t.start + n }

/-! ## Tilings -/

namespace Tiling

variable {i j : Int} {ts : List Token}

theorem shifted (h : Tiling i j ts) (n : Nat) :
    Tiling (i + n) (j + n) (ts.map (·.shifted n)) := by
  induction h with
  | nil => exact .nil _
  | @cons t rest j hpos _ ih =>
      refine .cons (t := t.shifted n) hpos ?_
      simp only [Token.shifted]
      rw [show t.start + n + t.length = t.start + t.length + n by omega]
      exact ih

theorem bounds (h : Tiling i j ts) : ∀ t ∈ ts, i ≤ t.start ∧ 1 ≤ t.length ∧
    t.start + t.length ≤ j := by
  induction h with
  | nil => simp
  | @cons t rest j hpos hrest ih =>
      intro u hu
      have hle := hrest.le (by decide)
      rcases List.mem_cons.mp hu with rfl | hmem
      · omega
      · have := ih u hmem
        omega

end Tiling

/-! ## What tokens spell in a longer text -/

variable {a b source : Text} {t : Token} {ts us : List Token} {i : Nat}

theorem text_append (hstart : 0 ≤ t.start) (hlength : 0 ≤ t.length)
    (hend : t.start + t.length ≤ a.length) : t.text (a ++ b) = t.text a := by
  obtain ⟨i, hi⟩ := Int.eq_ofNat_of_zero_le hstart
  obtain ⟨n, hn⟩ := Int.eq_ofNat_of_zero_le hlength
  rw [text_eq hi hn, text_eq hi hn, List.drop_append_of_le_length (by omega),
    List.take_append_of_le_length]
  rw [List.length_drop]
  omega

theorem text_take {j : Nat} (hstart : 0 ≤ t.start) (hlength : 0 ≤ t.length)
    (hend : t.start + t.length ≤ (source.take j).length) :
    t.text (source.take j) = t.text source := by
  have happend := text_append (b := source.drop j) hstart hlength hend
  rw [List.take_append_drop] at happend
  exact happend.symm

theorem text_shifted (hstart : 0 ≤ t.start) (hlength : 0 ≤ t.length) :
    (t.shifted a.length).text (a ++ b) = t.text b := by
  obtain ⟨i, hi⟩ := Int.eq_ofNat_of_zero_le hstart
  obtain ⟨n, hn⟩ := Int.eq_ofNat_of_zero_le hlength
  have hshifted : (t.shifted a.length).start = ((a.length + i : Nat) : Int) := by
    simp only [shifted]
    omega
  rw [text_eq hshifted hn, text_eq hi hn, ← List.drop_drop, List.drop_left]

/-- The longest piece that can be taken off ends at a seam. -/
theorem seam_of_munch {k : TokenKind} {w : Text} {n : Nat}
    (h : Text.Munch (source.drop i) k w (source.drop (i + n))) (hlength : w.length = n) :
    Text.Seam (source.take (i + n)) (source.drop (i + n)) := by
  have hlast : (source.take (i + n)).getLast? = w.getLast? := by
    rw [List.take_add, h.split, ← hlength, List.take_left,
      List.getLast?_append_of_ne_nil _ h.spells.nonempty]
  constructor <;> rw [hlast] <;> intro c hc d hd hclass
  · exact h.spacing ((h.spells.run_of_getLast? hc).1 hclass) d hd
  · exact h.numeric ((h.spells.run_of_getLast? hc).2 hclass) d hd

namespace Cuts

theorem text_append (h : Cuts a 0 ts) (ht : t ∈ ts) : t.text (a ++ b) = t.text a := by
  obtain ⟨hstart, hpos, hend⟩ := h.tiling.bounds t ht
  exact Token.text_append hstart (by omega) hend

theorem text_shifted (h : Cuts b 0 us) (ht : t ∈ us) :
    (t.shifted a.length).text (a ++ b) = t.text b := by
  obtain ⟨hstart, hpos, -⟩ := h.tiling.bounds t ht
  exact Token.text_shifted hstart (by omega)

/-- The last of the tokens ends with the last character. -/
theorem getLast?_text (h : Cuts a 0 ts) (ht : t ∈ ts.getLast?) :
    (t.text a).getLast? = a.getLast? := by
  obtain ⟨before, rfl⟩ := List.getLast?_eq_some_iff.mp ht
  obtain ⟨j, hbefore, hlast⟩ := h.tiling.split
  obtain ⟨i, rfl⟩ := Int.eq_ofNat_of_zero_le (hbefore.le (by decide))
  obtain ⟨n, hshape, hpos, hle, htext, hnil⟩ := Tiling.cons_elim hlast
  have hend := hnil.eq_of_nil
  rw [htext, List.take_of_length_le (by rw [List.length_drop]; omega), List.getLast?_drop,
    if_neg (by omega)]

theorem head?_text (h : Cuts b 0 us) (ht : t ∈ us.head?) : (t.text b).head? = b.head? := by
  obtain ⟨rest, rfl⟩ := List.head?_eq_some_iff.mp ht
  obtain ⟨c, s, more, htext, hb⟩ := h.head
  rw [List.drop_zero] at hb
  rw [htext, hb]
  rfl

/-- Behind another text, tokens cut the same pieces, further on. -/
theorem shifted (h : Cuts b 0 us) (a : Text) :
    Cuts (a ++ b) a.length (us.map (·.shifted a.length)) := by
  refine ⟨?_, ?_, (List.isChain_map _).mpr (h.apart.imp_of_mem_imp ?_)⟩
  · have hshifted := h.tiling.shifted a.length
    rw [show ((0 : Nat) : Int) + a.length = a.length by omega] at hshifted
    rw [List.length_append, Int.natCast_add, Int.add_comm (a.length : Int)]
    exact hshifted
  · intro t ht
    obtain ⟨u, hu, rfl⟩ := List.mem_map.mp ht
    rw [h.text_shifted hu]
    exact h.spells u hu
  · intro t u ht hu hapart
    unfold Apart
    rw [h.text_shifted ht, h.text_shifted hu]
    exact hapart

/-- Tokens of two texts without a run across the seam are the tokens of the texts put
together. -/
theorem append (ha : Cuts a 0 ts) (hb : Cuts b 0 us) (h : a.Seam b) :
    Cuts (a ++ b) 0 (ts ++ us.map (·.shifted a.length)) := by
  have hshifted := hb.shifted a
  refine ⟨ha.tiling.append hshifted.tiling, ?_,
    List.isChain_append.mpr ⟨?_, hshifted.apart, ?_⟩⟩
  · intro t ht
    rcases List.mem_append.mp ht with ht | ht
    · rw [ha.text_append ht]
      exact ha.spells t ht
    · exact hshifted.spells t ht
  · refine ha.apart.imp_of_mem_imp fun t u ht hu hapart => ?_
    unfold Apart
    rw [ha.text_append ht, ha.text_append hu]
    exact hapart
  · -- at the seam, the one ends and the other begins with the characters of the texts
    intro t ht v hv
    rw [List.head?_map] at hv
    obtain ⟨u, hu, rfl⟩ := Option.map_eq_some_iff.mp hv
    have hlast := ha.getLast?_text ht
    have hhead := hb.head?_text hu
    have hacross {p : Char → Bool} (hstop : ∀ c ∈ a.getLast?, ∀ d ∈ b.head?, p c = true →
        p d = false) : ¬ ((t.text a).Run p ∧ (u.text b).Run p) := by
      rintro ⟨hrun, hrun'⟩
      obtain ⟨c, hc⟩ := Option.ne_none_iff_exists'.mp (mt List.getLast?_eq_none_iff.mp hrun.nonempty)
      obtain ⟨d, hd⟩ := Option.ne_none_iff_exists'.mp (mt List.head?_eq_none_iff.mp hrun'.nonempty)
      have hnot := hstop c (hlast ▸ hc) d (hhead ▸ hd) (hrun.all c (List.mem_of_getLast? hc))
      rw [hrun'.all d (List.mem_of_head? hd)] at hnot
      cases hnot
    unfold Apart
    rw [ha.text_append (List.mem_of_getLast? ht), hb.text_shifted (List.mem_of_head? hu)]
    exact ⟨hacross h.spacing, hacross h.numeric⟩

/-- The first of some tokens that cut a text cut the part that they cover. -/
theorem take {j : Nat} (h : Cuts source 0 (ts ++ us)) (hts : Tiling 0 j ts)
    (hle : j ≤ source.length) : Cuts (source.take j) 0 ts := by
  have hlength : (source.take j).length = j := by
    rw [List.length_take]
    omega
  have htext (t : Token) (ht : t ∈ ts) : t.text (source.take j) = t.text source := by
    obtain ⟨hstart, hpos, hend⟩ := hts.bounds t ht
    exact Token.text_take hstart (by omega) (by omega)
  refine ⟨?_, ?_, ?_⟩
  · rw [hlength]
    exact hts
  · intro t ht
    rw [htext t ht]
    exact h.spells t (List.mem_append_left _ ht)
  · refine (List.isChain_append.mp h.apart).1.imp_of_mem_imp fun t u ht hu hapart => ?_
    unfold Apart
    rw [htext t ht, htext u hu]
    exact hapart

theorem text_take {j : Nat} (h : Cuts (source.take j) 0 ts) (ht : t ∈ ts) :
    t.text (source.take j) = t.text source := by
  obtain ⟨hstart, hpos, hend⟩ := h.tiling.bounds t ht
  exact Token.text_take hstart (by omega) hend

theorem ofText_eq (h : Cuts source 0 ts) : ofText source = ts ++ [⟨.eof, source.length, 1⟩] :=
  h.drain_eq (l := .ofText source) rfl

theorem significant_eq (h : Cuts source 0 ts) : significant source =
    ts.filter (fun t => t.kind ≠ .whitespace) ++ [⟨.eof, source.length, 1⟩] := by
  unfold significant
  rw [h.ofText_eq, List.filter_append]
  rfl

/-- Whatever follows a text, the tokens of the text come first, if nothing goes on with
its last run, and those of what follows come behind them. -/
theorem ofText_append (h : Cuts a 0 ts) (hseam : a.Seam b) :
    ofText (a ++ b) = ts ++ (ofText b).map (·.shifted a.length) := by
  obtain ⟨us, hb⟩ := exists_cuts (Nat.zero_le b.length)
  have hend : (⟨.eof, b.length, 1⟩ : Token).shifted a.length = ⟨.eof, (a ++ b).length, 1⟩ := by
    simp only [Token.shifted, List.length_append, Token.mk.injEq, true_and, and_true]
    omega
  rw [(h.append hb hseam).ofText_eq, hb.ofText_eq, List.map_append, List.append_assoc,
    List.map_singleton, hend]

theorem significant_append (h : Cuts a 0 ts) (hseam : a.Seam b) :
    significant (a ++ b) = ts.filter (fun t => t.kind ≠ .whitespace) ++
      (significant b).map (·.shifted a.length) := by
  unfold significant
  rw [h.ofText_append hseam, List.filter_append, List.filter_map]
  rfl

/-- Tokens that cut a text can be parted: those behind some place cut what is left there. If
no run goes on into the first of all the tokens, none goes on across that place. -/
theorem split (h : Cuts source i (ts ++ us)) (hseam : Text.Seam (source.take i) (source.drop i)) :
    ∃ j : Nat, Tiling i j ts ∧ Cuts source j us ∧
      Text.Seam (source.take j) (source.drop j) := by
  induction ts generalizing i with
  | nil => exact ⟨i, .nil i, h, hseam⟩
  | cons t ts ih =>
      obtain ⟨n, hshape, hlength, hpos, -, hrest, hmunch⟩ := h.munch
      obtain ⟨j, hts, hus, hbehind⟩ := ih hrest (seam_of_munch hmunch hlength)
      refine ⟨j, ?_, hus, hbehind⟩
      rw [hshape]
      exact .cons (t := ⟨t.kind, i, n⟩) (by simp only; omega) hts

end Cuts

/-- From any place on, the tokens ahead are those of the text ahead, so many places further
on. -/
theorem drain_eq_shifted {l : Lexer} (hlimit : l.limit = l.source.length)
    (hposition : l.position ≤ l.limit) :
    l.drain.1 = (ofText l.rest).map (·.shifted l.position) := by
  obtain ⟨us, hus⟩ := exists_cuts (Nat.zero_le l.rest.length)
  have hbehind := hus.shifted (l.source.take l.position)
  have hlength : (l.source.take l.position).length = l.position := by
    rw [List.length_take]
    omega
  have hsource : l.source.take l.position ++ l.rest = l.source := List.take_append_drop _ _
  have hend : (⟨.eof, l.rest.length, 1⟩ : Token).shifted l.position =
      ⟨.eof, l.source.length, 1⟩ := by
    simp only [Token.shifted, Lexer.rest, List.length_drop, Token.mk.injEq, true_and, and_true]
    omega
  rw [hlength, hsource] at hbehind
  rw [hbehind.drain_eq hlimit, hus.ofText_eq, List.map_append, List.map_singleton, hend]

/-- Tokens can be had piece by piece. If no run goes on across the seam of two texts, as none
does if one of them is empty, the tokens of both together are those of the first without the
end token, and then those of the second, moved on by the length of the first. And wherever
the cursor stands in a text, the tokens ahead of it are those of the text ahead, moved on. -/
theorem ofText_compositional :
    (∀ a b : Text, a = [] ∨ b = [] ∨ a.Seam b → ∃ body,
      ofText a = body ++ [⟨.eof, a.length, 1⟩] ∧
      ofText (a ++ b) = body ++ (ofText b).map (·.shifted a.length)) ∧
    ∀ l : Lexer, l.limit = l.source.length → l.position ≤ l.limit →
      l.drain.1 = (ofText (l.source.drop l.position)).map (·.shifted l.position) := by
  refine ⟨fun a b hparted => ?_, fun l hlimit hposition => drain_eq_shifted hlimit hposition⟩
  have hseam : a.Seam b := by
    rcases hparted with rfl | rfl | hseam
    · exact .nil b
    · exact ⟨fun _ _ _ hd => (nomatch hd), fun _ _ _ hd => (nomatch hd)⟩
    · exact hseam
  obtain ⟨body, hbody⟩ := exists_cuts (Nat.zero_le a.length)
  exact ⟨body, hbody.ofText_eq, hbody.ofText_append hseam⟩

/-- Between a digit and a space no run goes on, although one ends there and another begins;
and the cursor may stand within a run. -/
theorem ofText_compositional_spaced :
    (∃ body, ofText "2.5" = body ++ [⟨.eof, 3, 1⟩] ∧
      ofText "2.5 \t.1#" = body ++ (ofText " \t.1#").map (·.shifted 3)) ∧
    (⟨"2.5 \t.1#", 4, 8⟩ : Lexer).drain.1 = (ofText "\t.1#").map (·.shifted 4) := by
  have hseam : Text.Seam "2.5" " \t.1#" := by
    constructor <;> rintro c ⟨⟩ d ⟨⟩ <;> decide
  exact ⟨ofText_compositional.1 "2.5" " \t.1#" (.inr (.inr hseam)),
    ofText_compositional.2 ⟨"2.5 \t.1#", 4, 8⟩ rfl (by decide)⟩

/-! ## Cutting off at a token -/

/-- The significant tokens `before` and then `t` come first in the source. Cut off in front
of `t`, which is `n` characters from place `i` on, the source has the tokens before it; cut
off behind it and continued, it has these and `t` again. -/
structure CutOff (source : Text) (before : List Token) (t : Token) (i n : Nat) : Prop where
  shape : t = ⟨t.kind, i, n⟩
  spells : t.kind.Spells (t.text source)
  seam : Text.Seam (source.take i) (source.drop i)
  front : significant (source.take i) = before ++ [⟨.eof, i, 1⟩]
  text_front : ∀ u ∈ before, u.text (source.take i) = u.text source
  onward : ∀ more, (t.text source).Seam more →
    ∃ behind, significant (source.take (i + n) ++ more) = before ++ t :: behind
  text_onward : ∀ more, ∀ u ∈ before, u.text (source.take (i + n) ++ more) = u.text source

/-- A source can be cut off at each of its significant tokens but the end token. -/
theorem exists_cutOff {before behind : List Token}
    (h : significant source = before ++ t :: behind) (ht : t.kind ≠ .eof) :
    ∃ i n, CutOff source before t i n := by
  obtain ⟨body, hbody⟩ := exists_cuts (Nat.zero_le source.length)
  -- in front of the token stand those before it, and spacing
  obtain ⟨ts, us, hsplit, hts, hspace⟩ : ∃ ts us, body = ts ++ t :: us ∧
      ts.filter (fun t => t.kind ≠ .whitespace) = before ∧ t.kind ≠ .whitespace := by
    unfold significant at h
    rw [hbody.ofText_eq] at h
    obtain ⟨front, back, hall, hfront, hback⟩ := List.filter_eq_append_iff.mp h
    obtain ⟨gap, rest, rfl, hgap, hkept, -⟩ := List.filter_eq_cons_iff.mp hback
    rcases List.eq_nil_or_concat rest with rfl | ⟨rest, last, rfl⟩
    · -- the token would be the end token
      rw [← List.append_assoc] at hall
      have hlast := (List.append_inj' hall rfl).2
      simp only [List.cons.injEq, and_true] at hlast
      rw [← hlast] at ht
      exact absurd rfl ht
    · rw [List.concat_eq_append, ← List.cons_append, ← List.append_assoc, ← List.append_assoc]
        at hall
      refine ⟨front ++ gap, rest, (List.append_inj' hall rfl).1, ?_, by simpa using hkept⟩
      rw [List.filter_append, hfront, List.filter_eq_nil_iff.mpr hgap, List.append_nil]
  rw [hsplit] at hbody
  have hmem (u : Token) (hu : u ∈ before) : u ∈ ts := by
    rw [← hts] at hu
    exact (List.mem_filter.mp hu).1
  obtain ⟨i, hfront, hback, hseam⟩ := hbody.split (.nil _)
  obtain ⟨n, hshape, -, hpos, hle, -, hmunch⟩ := hback.munch
  have hcut := hbody.take hfront (by omega)
  refine ⟨i, n, hshape, hmunch.spells, hseam, ?_, fun u hu => hcut.text_take (hmem u hu), ?_, ?_⟩
  · rw [hcut.significant_eq, hts, List.length_take, Nat.min_eq_left (by omega)]
  all_goals
    -- with the token, the first tokens reach up to the place behind it
    have hthrough : Cuts (source.take (i + n)) 0 (ts ++ [t]) := by
      rw [← List.singleton_append, ← List.append_assoc] at hbody
      refine hbody.take (hfront.append ?_) hle
      rw [hshape]
      exact .cons (t := ⟨t.kind, i, n⟩) (by simp only; omega) (.nil _)
    intro more
  · intro hseam
    have hlast := hthrough.getLast?_text (t := t) (by simp)
    rw [hthrough.text_take (by simp)] at hlast
    refine ⟨(significant more).map (·.shifted (source.take (i + n)).length), ?_⟩
    rw [hthrough.significant_append (hseam.of_getLast?_eq hlast.symm), List.filter_append, hts,
      List.filter_cons_of_pos (by simpa using hspace)]
    simp
  · intro u hu
    have hu := List.mem_append_left [t] (hmem u hu)
    rw [hthrough.text_append hu, hthrough.text_take hu]

/-- Cut off in front of the token and continued, the source has the tokens before it and then
those of the continuation. -/
theorem CutOff.instead {before : List Token} {n : Nat} (h : CutOff source before t i n)
    {more : Text} (hseam : Text.Seam (source.take i) more) :
    significant (source.take i ++ more) =
        before ++ (significant more).map (·.shifted (source.take i).length) ∧
      ∀ u ∈ before, u.text (source.take i ++ more) = u.text source := by
  obtain ⟨ts, hts⟩ := exists_cuts (Nat.zero_le (source.take i).length)
  have hbefore : ts.filter (fun t => t.kind ≠ .whitespace) = before :=
    (List.append_inj' (hts.significant_eq.symm.trans h.front) rfl).1
  refine ⟨by rw [hts.significant_append hseam, hbefore], fun u hu => ?_⟩
  rw [← h.text_front u hu]
  rw [← hbefore] at hu
  exact hts.text_append (List.mem_filter.mp hu).1

end Token

end Reckoner
