import Reckoner.Number.Layout
import Reckoner.Number.Numeral
import Reckoner.Proofs.RoundingIntervals

/-!
# Texts of numbers (what is written tells which float it was)

`spelled` reads an unsigned numeral exactly, as a rational number. Read like this, the text of
a float is the decimal it was written with, wherever the point was put and with whichever
power of ten; that decimal is near the float and near no other one. So different floats have
different texts.

* `spelled_writeDecimal`: all three ways of setting digits spell the decimal.
* `near_writeMagnitude`: what is written for the size of a float is near it.
* `Text.ofFloat_injective`: the text of a float determines it.
* `Text.written_ofFloat`: digits, points, signs and letters are all that occurs in it.
-/

namespace Reckoner

namespace Number

/-! ## Runs of digits -/

/-- All characters are digits. -/
def Digits (s : Text) : Prop :=
  ∀ c ∈ s, isDigit c = true

variable {s t whole fraction rest digits : Text} {n : Nat} {e : Int}

theorem Digits.append (hs : Digits s) (ht : Digits t) : Digits (s ++ t) := by
  intro c hc
  obtain hc | hc := List.mem_append.mp hc
  · exact hs c hc
  · exact ht c hc

theorem Digits.take (hs : Digits s) (n : Nat) : Digits (s.take n) :=
  fun c hc => hs c (List.mem_of_mem_take hc)

theorem Digits.drop (hs : Digits s) (n : Nat) : Digits (s.drop n) :=
  fun c hc => hs c (List.mem_of_mem_drop hc)

theorem digits_zeros (n : Nat) : Digits (List.replicate n '0') := by
  intro c hc
  rw [List.eq_of_mem_replicate hc]
  decide

theorem digits_ofNat (n : Nat) : Digits (Text.ofNat n) :=
  fun _ hc => Nat.isDigit_of_mem_toDigits (by decide) (by decide) hc

theorem digitsValue_ofNat (n : Nat) : digitsValue (Text.ofNat n) = n :=
  Nat.ofDigitChars_ten_toDigits

theorem digitsValue_append (s t : Text) :
    digitsValue (s ++ t) = 10 ^ t.length * digitsValue s + digitsValue t :=
  (Nat.ofDigitChars_append 0).trans Nat.ofDigitChars_eq_ofDigitChars_zero

theorem digitsValue_zeros (n : Nat) : digitsValue (List.replicate n '0') = 0 :=
  Nat.ofDigitChars_replicate_zero.trans (Nat.mul_zero _)

/-- Zeros in front of digits do not count. -/
theorem digitsValue_zeros_append (n : Nat) (s : Text) :
    digitsValue (List.replicate n '0' ++ s) = digitsValue s := by
  rw [digitsValue_append, digitsValue_zeros, Nat.mul_zero, Nat.zero_add]

/-- Each zero behind digits counts tenfold. -/
theorem digitsValue_append_zeros (s : Text) (n : Nat) :
    digitsValue (s ++ List.replicate n '0') = 10 ^ n * digitsValue s := by
  rw [digitsValue_append, digitsValue_zeros, List.length_replicate, Nat.add_zero]

/-! ## What a numeral spells -/

/-- The digits behind a point, if the text begins with one, and what follows. -/
def pointed : Text → Text × Text
  | '.' :: rest => (rest.takeWhile isDigit, rest.dropWhile isDigit)
  | rest => ([], rest)

/-- The number that an unsigned numeral spells: digits with at most one point among them and
perhaps a power of ten behind. -/
def spelled (s : Text) : ℚ :=
  let (fraction, rest) := pointed (s.dropWhile isDigit)
  digitsValue (s.takeWhile isDigit ++ fraction) * 10 ^ ((power? rest).getD 0 - fraction.length)

/-- What digits are followed by once they are over: nothing, or no digit. -/
def Stopped (rest : Text) : Prop :=
  ∀ c ∈ rest.head?, isDigit c = false

theorem Stopped.takeWhile_append (hrest : Stopped rest) (hs : Digits s) :
    (s ++ rest).takeWhile isDigit = s ∧ (s ++ rest).dropWhile isDigit = rest := by
  rw [List.takeWhile_append_of_pos hs, List.dropWhile_append_of_pos hs]
  cases rest with
  | nil => exact ⟨List.append_nil s, rfl⟩
  | cons c rest =>
      have hc : ¬ isDigit c = true := by simp [hrest c rfl]
      rw [List.takeWhile_cons_of_neg hc, List.dropWhile_cons_of_neg hc, List.append_nil]
      exact ⟨rfl, rfl⟩

theorem pointed_of_ne (hpoint : rest.head? ≠ some '.') : pointed rest = ([], rest) := by
  unfold pointed
  split
  · exact absurd rfl hpoint
  · rfl

theorem spelled_whole (hwhole : Digits whole) (hrest : Stopped rest)
    (hpoint : rest.head? ≠ some '.') (hpower : power? rest = some e) :
    spelled (whole ++ rest) = digitsValue whole * 10 ^ e := by
  obtain ⟨htake, hdrop⟩ := hrest.takeWhile_append hwhole
  simp [spelled, htake, hdrop, pointed_of_ne hpoint, hpower]

theorem spelled_pointed (hwhole : Digits whole) (hfraction : Digits fraction)
    (hrest : Stopped rest) (hpower : power? rest = some e) :
    spelled (whole ++ '.' :: (fraction ++ rest)) =
      digitsValue (whole ++ fraction) * 10 ^ (e - fraction.length) := by
  have hpoint : Stopped ('.' :: (fraction ++ rest)) := by
    rintro c ⟨⟩
    decide
  obtain ⟨htake, hdrop⟩ := hpoint.takeWhile_append hwhole
  obtain ⟨htake', hdrop'⟩ := hrest.takeWhile_append hfraction
  simp [spelled, htake, hdrop, pointed, htake', hdrop', hpower]

/-! ## The ways of setting digits -/

theorem stopped_nil : Stopped [] := by
  rintro c ⟨⟩

theorem stopped_powerOfTen (e : Int) : Stopped (powerOfTen e) := by
  rintro c ⟨⟩
  decide

theorem power?_of_digits (hdigits : Digits digits) (hne : digits ≠ []) :
    power? ('e' :: '-' :: digits) = some (-(digitsValue digits : Int)) ∧
      power? ('e' :: '+' :: digits) = some (digitsValue digits) := by
  have hall : digits.all isDigit = true := List.all_eq_true.mpr hdigits
  constructor <;> simp [power?, signed, hall, hne]

theorem power?_powerOfTen (e : Int) : power? (powerOfTen e) = some e := by
  have hne : Text.ofNat e.natAbs ≠ [] := Nat.toDigits_ne_nil
  obtain ⟨hminus, hplus⟩ := power?_of_digits
    ((digits_zeros (2 - (Text.ofNat e.natAbs).length)).append (digits_ofNat e.natAbs))
    (List.append_ne_nil_of_right_ne_nil _ hne)
  rw [digitsValue_zeros_append, digitsValue_ofNat] at hminus hplus
  unfold powerOfTen
  dsimp only
  split
  · exact hminus.trans (congrArg some (by omega))
  · exact hplus.trans (congrArg some (by omega))

/-- With the point at its place, the first digit counts the power of ten it should. -/
theorem spelled_positional (hdigits : Digits digits) :
    spelled (Layout.full.positional digits e) =
      digitsValue digits * 10 ^ (e + 1 - digits.length) := by
  have hzero : Digits ['0'] := digits_zeros 1
  unfold Layout.positional
  split
  · -- a zero before the point, zeros between the point and the digits
    have h := spelled_pointed hzero ((digits_zeros (-e - 1).toNat).append hdigits) stopped_nil rfl
    rw [List.append_nil] at h
    refine h.trans ?_
    rw [← List.append_assoc, show ['0'] = List.replicate 1 '0' from rfl, ← List.replicate_add,
      digitsValue_zeros_append, List.length_append, List.length_replicate]
    congr 2
    omega
  · dsimp only
    split
    · -- the digits end before the point does, zeros are between and behind
      rename_i hfraction
      have hshort := List.drop_eq_nil_iff.mp (List.isEmpty_iff.mp hfraction)
      have hvalue (n : Nat) : digitsValue (digits ++ List.replicate n '0' ++ ['0']) =
          10 ^ (n + 1) * digitsValue digits := by
        rw [show ['0'] = List.replicate 1 '0' from rfl, List.append_assoc, ← List.replicate_add,
          digitsValue_append_zeros]
      have h := spelled_pointed (hdigits.append (digits_zeros (e.toNat + 1 - digits.length)))
        hzero stopped_nil rfl
      rw [hvalue] at h
      rw [List.take_of_length_le hshort]
      refine h.trans ?_
      push_cast
      rw [mul_comm (10 ^ _ : ℚ), mul_assoc, ← zpow_natCast, ← zpow_add₀ (by norm_num)]
      congr 2
      rw [List.length_singleton]
      omega
    · -- the point is between the digits
      rename_i hfraction
      have hlong : e.toNat + 1 < digits.length := by
        simpa using hfraction
      have h := spelled_pointed (hdigits.take (e.toNat + 1)) (hdigits.drop (e.toNat + 1))
        stopped_nil rfl
      rw [List.append_nil, List.take_append_drop, List.length_drop] at h
      rw [Nat.sub_eq_zero_of_le hlong.le, List.replicate_zero, List.append_nil, h]
      congr 2
      omega

theorem spelled_scientific (hdigits : Digits digits) (hne : digits ≠ []) :
    spelled (Layout.scientific digits e) =
      digitsValue digits * 10 ^ (e + 1 - digits.length) := by
  have hpos := List.length_pos_iff.mpr hne
  unfold Layout.scientific
  dsimp only
  split
  · rename_i hfraction
    have hone := List.drop_eq_nil_iff.mp (List.isEmpty_iff.mp hfraction)
    rw [List.take_of_length_le hone, List.append_nil,
      spelled_whole hdigits (stopped_powerOfTen e) (by simp [powerOfTen]) (power?_powerOfTen e)]
    congr 2
    omega
  · have h := spelled_pointed (hdigits.take 1) (hdigits.drop 1) (stopped_powerOfTen e)
      (power?_powerOfTen e)
    rw [List.take_append_drop, List.length_drop] at h
    rw [List.append_assoc]
    refine h.trans ?_
    congr 2
    omega

/-! ## Decimals -/

/-- The digits of a decimal are the leading ones and zeros behind. -/
theorem Decimal.exists_zeros (d : Decimal) :
    ∃ n, Text.ofNat d.count = d.leading ++ List.replicate n '0' := by
  -- from the back, the zeros come first
  have hzeros := List.eq_replicate_iff.mpr
    ⟨rfl, fun c (hc : c ∈ (Text.ofNat d.count).reverse.takeWhile (· == '0')) =>
      beq_iff_eq.mp (List.all_eq_true.mp List.all_takeWhile c hc)⟩
  have hsplit := congrArg List.reverse
    (List.takeWhile_append_dropWhile (p := (· == '0')) (l := (Text.ofNat d.count).reverse))
  rw [List.reverse_append, List.reverse_reverse, hzeros, List.reverse_replicate] at hsplit
  exact ⟨_, hsplit.symm⟩

theorem Decimal.digits_leading (d : Decimal) : Digits d.leading := by
  obtain ⟨n, hn⟩ := d.exists_zeros
  intro c hc
  exact digits_ofNat d.count c (hn ▸ List.mem_append_left _ hc)

theorem Decimal.leading_ne_nil {d : Decimal} (hpos : 0 < d.count) : d.leading ≠ [] := by
  intro hnil
  obtain ⟨n, hn⟩ := d.exists_zeros
  have hvalue := digitsValue_ofNat d.count
  rw [hn, hnil, List.nil_append, digitsValue_zeros] at hvalue
  omega

/-- A decimal in its leading digits, of which the first counts the decimal exponent. -/
theorem Decimal.value_eq (d : Decimal) :
    d.value = digitsValue d.leading * 10 ^ (d.exponent + 1 - d.leading.length) := by
  obtain ⟨n, hn⟩ := d.exists_zeros
  have hcount : d.count = 10 ^ n * digitsValue d.leading := by
    rw [← digitsValue_append_zeros, ← hn, digitsValue_ofNat]
  have hlength : digitCount d.count = d.leading.length + n := by
    have := congrArg List.length hn
    rwa [List.length_append, List.length_replicate] at this
  have hexponent : d.exponent + 1 - d.leading.length = n + d.unit := by
    rw [exponent, hlength]
    push_cast
    omega
  rw [hexponent, value, hcount, zpow_add₀ (by norm_num), zpow_natCast]
  push_cast
  ring

/-- However a decimal is set, its text spells it. -/
theorem spelled_writeDecimal {d : Decimal} (hpos : 0 < d.count) :
    spelled (Layout.full.writeDecimal d) = d.value := by
  rw [d.value_eq]
  unfold Layout.writeDecimal
  split
  · exact spelled_positional d.digits_leading
  · exact spelled_scientific d.digits_leading (Decimal.leading_ne_nil hpos)

variable {m : Nat} {q : Int}

theorem count_shortest_pos (hm : 0 < m) (q : Int) : 0 < (shortest m q).count := by
  have hvalue := (near_shortest m q).pos hm
  refine Nat.pos_of_ne_zero fun hzero => ?_
  rw [Decimal.value, hzero, Nat.cast_zero, zero_mul] at hvalue
  exact lt_irrefl _ hvalue

theorem writeMagnitude_eq (hm : m ≠ 0) (q : Int) :
    Layout.full.writeMagnitude m q = Layout.full.writeDecimal (shortest m q) := by
  rw [Layout.writeMagnitude, if_neg hm]
  rfl

/-- What is written for the size of a float is near it. -/
theorem near_writeMagnitude (m : Nat) (q : Int) :
    Near m q (spelled (Layout.full.writeMagnitude m q)) := by
  obtain rfl | hm := Nat.eq_zero_or_pos m
  · have hself := near_self 0 q
    have htext := spelled_pointed (digits_zeros 1) (digits_zeros 1) stopped_nil rfl
    rw [digitsValue_zeros_append, digitsValue_zeros, Nat.cast_zero, zero_mul] at htext
    rw [Nat.cast_zero, zero_mul] at hself
    exact htext ▸ hself
  · rw [writeMagnitude_eq hm.ne', spelled_writeDecimal (count_shortest_pos hm q)]
    exact near_shortest m q

/-! ## Characters -/

/-- The characters that texts of numbers have besides digits. -/
def marks : Text := ".+-aefin"

/-- Made of digits and marks. -/
def Written (s : Text) : Prop :=
  ∀ c ∈ s, isDigit c = true ∨ c ∈ marks

theorem Digits.written (h : Digits s) : Written s :=
  fun c hc => .inl (h c hc)

theorem Written.append (hs : Written s) (ht : Written t) : Written (s ++ t) := by
  intro c hc
  obtain hc | hc := List.mem_append.mp hc
  · exact hs c hc
  · exact ht c hc

theorem Written.cons {c : Char} (hc : c ∈ marks) (hs : Written s) : Written (c :: s) := by
  intro d hd
  obtain rfl | hd := List.mem_cons.mp hd
  · exact .inr hc
  · exact hs d hd

theorem written_nil : Written [] := by
  rintro c ⟨⟩

theorem written_powerOfTen (e : Int) : Written (powerOfTen e) := by
  have hdigits := ((digits_zeros (2 - (Text.ofNat e.natAbs).length)).append
    (digits_ofNat e.natAbs)).written
  unfold powerOfTen
  refine .cons (by decide) (.cons ?_ hdigits)
  split <;> decide

theorem written_positional (hdigits : Digits digits) :
    Written (Layout.full.positional digits e) := by
  unfold Layout.positional
  split
  · exact (digits_zeros 1).written.append
      (.cons (by decide) ((digits_zeros _).append hdigits).written)
  · refine ((hdigits.take _).append (digits_zeros _)).written.append ?_
    split
    · exact .cons (by decide) (digits_zeros 1).written
    · exact .cons (by decide) (hdigits.drop _).written

theorem written_scientific (hdigits : Digits digits) : Written (Layout.scientific digits e) := by
  unfold Layout.scientific
  refine ((hdigits.take 1).written.append ?_).append (written_powerOfTen e)
  split
  · exact written_nil
  · exact .cons (by decide) (hdigits.drop 1).written

theorem written_writeMagnitude (m : Nat) (q : Int) :
    Written (Layout.full.writeMagnitude m q) := by
  obtain rfl | hm := Nat.eq_zero_or_pos m
  · exact (digits_zeros 1).written.append (.cons (by decide) (digits_zeros 1).written)
  · rw [writeMagnitude_eq hm.ne', Layout.writeDecimal]
    split
    · exact written_positional (Decimal.digits_leading _)
    · exact written_scientific (Decimal.digits_leading _)

/-- The text for the size of a float begins with a digit. -/
theorem exists_writeMagnitude (m : Nat) (q : Int) :
    ∃ c s, Layout.full.writeMagnitude m q = c :: s ∧ isDigit c = true := by
  obtain rfl | hm := Nat.eq_zero_or_pos m
  · exact ⟨'0', _, rfl, by decide⟩
  · obtain ⟨d, digits, hleading⟩ :=
      List.exists_cons_of_ne_nil (Decimal.leading_ne_nil (count_shortest_pos hm q))
    have hd := (shortest m q).digits_leading d (hleading ▸ List.mem_cons_self)
    rw [writeMagnitude_eq hm.ne', Layout.writeDecimal, hleading]
    split
    · unfold Layout.positional
      split
      · exact ⟨'0', _, rfl, by decide⟩
      · exact ⟨d, _, rfl, hd⟩
    · exact ⟨d, _, rfl, hd⟩

theorem writeMagnitude_ne_cons {c : Char} (hc : isDigit c = false) :
    Layout.full.writeMagnitude m q ≠ c :: t := by
  obtain ⟨d, s, htext, hd⟩ := exists_writeMagnitude m q
  intro h
  obtain ⟨rfl, -⟩ := List.cons.inj (htext.symm.trans h)
  rw [hd] at hc
  cases hc

/-! ## Floats -/

/-- Equal texts of sizes are texts of one size. -/
theorem writeMagnitude_inj {m' : Nat} {q' : Int} (h : Canonical m q) (h' : Canonical m' q')
    (htext : Layout.full.writeMagnitude m q = Layout.full.writeMagnitude m' q') :
    m = m' ∧ q = q' :=
  (near_writeMagnitude m q).unique h h' (htext ▸ near_writeMagnitude m' q')

/-- Whether a sign is written. -/
def Exact.negative : Exact → Bool
  | .nan => false
  | .infinite negative => negative
  | .finite negative _ _ => negative

/-- What is written, but for the sign. -/
def Exact.unsigned : Exact → Text
  | .nan => "nan"
  | .infinite _ => "inf"
  | .finite _ m q => Layout.full.writeMagnitude m q

theorem Exact.unsigned_ne_minus (a : Exact) : a.unsigned ≠ '-' :: t := by
  cases a with
  | nan => rintro ⟨⟩
  | infinite negative => rintro ⟨⟩
  | finite negative m q => exact writeMagnitude_ne_cons rfl

theorem Exact.unsigned_ne_nil (a : Exact) : a.unsigned ≠ [] := by
  cases a with
  | nan => exact List.cons_ne_nil _ _
  | infinite negative => exact List.cons_ne_nil _ _
  | finite negative m q =>
      obtain ⟨c, s, htext, -⟩ := exists_writeMagnitude m q
      rw [unsigned, htext]
      exact List.cons_ne_nil c s

theorem Exact.written_unsigned (a : Exact) : Written a.unsigned := by
  cases a with
  | nan => exact .cons (by decide) (.cons (by decide) (.cons (by decide) written_nil))
  | infinite negative =>
      exact .cons (by decide) (.cons (by decide) (.cons (by decide) written_nil))
  | finite negative m q => exact written_writeMagnitude m q

theorem write_eq (x : Float) : Layout.full.write x =
    (if (Exact.ofFloat x).negative then ['-'] else []) ++ (Exact.ofFloat x).unsigned := by
  unfold Layout.write
  cases Exact.ofFloat x with
  | nan => rfl
  | infinite negative => cases negative <;> rfl
  | finite negative m q => cases negative <;> rfl

theorem Exact.eq_of_unsigned_eq {x y : Float}
    (hsign : (Exact.ofFloat x).negative = (Exact.ofFloat y).negative)
    (h : (Exact.ofFloat x).unsigned = (Exact.ofFloat y).unsigned) :
    Exact.ofFloat x = Exact.ofFloat y := by
  cases hx : Exact.ofFloat x with
  | nan =>
      cases hy : Exact.ofFloat y with
      | nan => rfl
      | infinite negative =>
          rw [hx, hy] at h
          cases h
      | finite negative m q =>
          rw [hx, hy] at h
          exact absurd h.symm (writeMagnitude_ne_cons rfl)
  | infinite negative =>
      cases hy : Exact.ofFloat y with
      | nan =>
          rw [hx, hy] at h
          cases h
      | infinite negative' =>
          rw [hx, hy] at hsign
          exact congrArg infinite hsign
      | finite negative' m q =>
          rw [hx, hy] at h
          exact absurd h.symm (writeMagnitude_ne_cons rfl)
  | finite negative m q =>
      cases hy : Exact.ofFloat y with
      | nan =>
          rw [hx, hy] at h
          exact absurd h (writeMagnitude_ne_cons rfl)
      | infinite negative' =>
          rw [hx, hy] at h
          exact absurd h (writeMagnitude_ne_cons rfl)
      | finite negative' m' q' =>
          rw [hx, hy] at h hsign
          obtain ⟨rfl, rfl⟩ :=
            writeMagnitude_inj (canonical_ofFloat hx) (canonical_ofFloat hy) h
          exact congrArg (finite · m q) hsign

end Number

open Number

theorem Text.written_ofFloat (x : Float) : Written (Text.ofFloat x) := by
  unfold Text.ofFloat
  rw [write_eq]
  refine .append ?_ (Exact.written_unsigned _)
  split
  · exact .cons (by decide) written_nil
  · exact written_nil

theorem Text.notMem_ofFloat (x : Float) {c : Char} (hdigit : isDigit c = false)
    (hmark : c ∉ marks) : c ∉ Text.ofFloat x := by
  intro hc
  obtain hc | hc := Text.written_ofFloat x c hc
  · rw [hdigit] at hc
    cases hc
  · exact hmark hc

theorem Text.ofFloat_ne_nil (x : Float) : Text.ofFloat x ≠ [] := by
  unfold Text.ofFloat
  rw [write_eq]
  exact List.append_ne_nil_of_right_ne_nil _ (Exact.unsigned_ne_nil _)

/-- The text of a float determines it. -/
theorem Text.ofFloat_injective : Function.Injective Text.ofFloat := by
  intro x y h
  unfold Text.ofFloat at h
  rw [write_eq, write_eq] at h
  refine Exact.ofFloat_injective ?_
  cases hx : (Exact.ofFloat x).negative with
  | true =>
      cases hy : (Exact.ofFloat y).negative with
      | true =>
          rw [hx, hy] at h
          exact Exact.eq_of_unsigned_eq (hx.trans hy.symm) (List.cons.inj h).2
      | false =>
          rw [hx, hy] at h
          exact absurd h.symm (Exact.unsigned_ne_minus _)
  | false =>
      cases hy : (Exact.ofFloat y).negative with
      | true =>
          rw [hx, hy] at h
          exact absurd h (Exact.unsigned_ne_minus _)
      | false =>
          rw [hx, hy] at h
          exact Exact.eq_of_unsigned_eq (hx.trans hy.symm) h

end Reckoner
