import Mathlib.Algebra.Order.Field.Basic
import Mathlib.Algebra.Order.Field.Power
import Mathlib.Data.Rat.Cast.Order
import Mathlib.Tactic.Linarith
import Mathlib.Tactic.Positivity
import Mathlib.Tactic.Ring
import Reckoner.Number.Exact
import Reckoner.Number.Shortest

/-!
# Rounding intervals (the rationals that are nearest to a float)

A finite float is `m * 2 ^ q`, and one pair `(m, q)` of those that are this number is the
`Canonical` one. Around it is the interval of everything `Near` it: halfway to the next float
upwards and halfway to the next one downwards, the ends included if `m` is even. Neighbouring
intervals have an end in common, but of two neighbouring mantissas one is odd. So nothing is
near two floats, and a decimal that is near one float tells which one it is.

* `Near.unique`: a rational is near one float at most.
* `readsBack_iff`: what is tested on a grid, in natural numbers, is nearness.
* `near_shortest`: the decimal that a float is written with is near the float.
* `Exact.ofFloat_injective`, `Exact.canonical_ofFloat`: floats as canonical pairs.
-/

namespace Reckoner.Number

/-! ## Nearness -/

/-- The mantissa and the exponent of a finite float: the mantissa is a full one, unless the
exponent is the least one. -/
def Canonical (m : Nat) (q : Int) : Prop :=
  (m < leastFullMantissa ∧ q = leastExponent) ∨
    (leastFullMantissa ≤ m ∧ m < 2 * leastFullMantissa ∧ leastExponent ≤ q)

/-- How far the interval around `m * 2 ^ q` reaches down, in quarters of `2 ^ q`. -/
def reach (m : Nat) (q : Int) : Nat :=
  if m = leastFullMantissa ∧ q ≠ leastExponent then 1 else 2

/-- The lower end of the interval around `m * 2 ^ q`. -/
def lowEnd (m : Nat) (q : Int) : ℚ :=
  (4 * m - reach m q : Nat) * 2 ^ (q - 2)

/-- The upper end of the interval around `m * 2 ^ q`. -/
def highEnd (m : Nat) (q : Int) : ℚ :=
  (4 * m + 2 : Nat) * 2 ^ (q - 2)

/-- Within the interval around `m * 2 ^ q`; the ends belong to it if `m` is even. -/
def Near (m : Nat) (q : Int) (v : ℚ) : Prop :=
  if m % 2 = 0 then lowEnd m q ≤ v ∧ v ≤ highEnd m q else lowEnd m q < v ∧ v < highEnd m q

variable {m m' : Nat} {q q' : Int} {v : ℚ}

theorem two_zpow_pos (q : Int) : (0 : ℚ) < 2 ^ q :=
  zpow_pos (by norm_num) q

theorem one_le_reach (m : Nat) (q : Int) : 1 ≤ reach m q ∧ reach m q ≤ 2 := by
  unfold reach
  split <;> decide

theorem Near.bounds (h : Near m q v) : lowEnd m q ≤ v ∧ v ≤ highEnd m q := by
  unfold Near at h
  split at h
  · exact h
  · exact ⟨h.1.le, h.2.le⟩

/-- An end of the interval belongs to it only if the mantissa is even. -/
theorem Near.even_of_eq_end (h : Near m q v) (hv : v = lowEnd m q ∨ v = highEnd m q) :
    m % 2 = 0 := by
  unfold Near at h
  split at h
  · assumption
  · obtain rfl | rfl := hv
    · exact absurd h.1 (lt_irrefl _)
    · exact absurd h.2 (lt_irrefl _)

theorem leastFullMantissa_eq : leastFullMantissa = 4503599627370496 := by
  decide

/-- Of two canonical pairs, in quarters of the smaller unit: the smaller interval ends before
the other one begins, or where it begins, and then one of the mantissas is odd. -/
theorem Canonical.quarters_apart {k : Nat} (h : Canonical m q) (h' : Canonical m' (q + k))
    (hlt : 0 < k ∨ m < m') :
    4 * m + 2 < (4 * m' - reach m' (q + k)) * 2 ^ k ∨
      (4 * m + 2 = (4 * m' - reach m' (q + k)) * 2 ^ k ∧ m % 2 ≠ m' % 2) := by
  unfold Canonical at h h'
  rw [leastFullMantissa_eq] at h h'
  cases k with
  | zero =>
      obtain ⟨hone, htwo⟩ := one_le_reach m' (q + (0 : Nat))
      rw [pow_zero, mul_one]
      omega
  | succ j =>
      -- the greater float is beyond the least exponent, so its mantissa is a full one
      have hpos : 0 < 2 ^ j := Nat.two_pow_pos j
      rw [pow_succ', ← mul_assoc]
      unfold reach
      rw [leastFullMantissa_eq]
      split
      · rename_i hpower
        rw [hpower.1] at h' ⊢
        omega
      · have hle := Nat.le_mul_of_pos_right ((4 * m' - 2) * 2) hpos
        omega

/-- Of two floats, the interval around the smaller one ends before the other interval begins,
or where it begins; then one of the mantissas is odd. -/
theorem Canonical.apart (h : Canonical m q) (h' : Canonical m' q')
    (hlt : q < q' ∨ (q = q' ∧ m < m')) :
    highEnd m q < lowEnd m' q' ∨ (highEnd m q = lowEnd m' q' ∧ m % 2 ≠ m' % 2) := by
  obtain ⟨k, rfl⟩ : ∃ k : Nat, q' = q + k := ⟨(q' - q).toNat, by omega⟩
  have hscale : lowEnd m' (q + k) =
      ((4 * m' - reach m' (q + k)) * 2 ^ k : Nat) * 2 ^ (q - 2) := by
    rw [lowEnd, show q + k - 2 = k + (q - 2) by omega, zpow_add₀ (by norm_num), zpow_natCast]
    push_cast
    ring
  rw [hscale, highEnd, mul_lt_mul_iff_left₀ (two_zpow_pos _),
    mul_left_inj' (two_zpow_pos _).ne', Nat.cast_lt, Nat.cast_inj]
  exact h.quarters_apart h' (by omega)

theorem Near.lt_of_apart (h : Canonical m q) (h' : Canonical m' q')
    (hlt : q < q' ∨ (q = q' ∧ m < m')) (hv : Near m q v) : ¬ Near m' q' v := by
  intro hv'
  have hhigh := hv.bounds.2
  have hlow := hv'.bounds.1
  obtain hgap | ⟨hmeet, hodd⟩ := h.apart h' hlt
  · exact absurd (hlow.trans hhigh) hgap.not_ge
  · -- the value is the common end of the two intervals
    have heven := hv.even_of_eq_end (.inr (le_antisymm hhigh (hmeet ▸ hlow)))
    have heven' := hv'.even_of_eq_end (.inl (le_antisymm (hmeet ▸ hhigh) hlow))
    exact hodd (heven.trans heven'.symm)

/-- Nothing is near two floats. -/
theorem Near.unique (h : Canonical m q) (h' : Canonical m' q') (hv : Near m q v)
    (hv' : Near m' q' v) : m = m' ∧ q = q' := by
  obtain hq | hq | hq := lt_trichotomy q q'
  · exact absurd hv' (hv.lt_of_apart h h' (.inl hq))
  · obtain hm | hm | hm := lt_trichotomy m m'
    · exact absurd hv' (hv.lt_of_apart h h' (.inr ⟨hq, hm⟩))
    · exact ⟨hm, hq⟩
    · exact absurd hv (hv'.lt_of_apart h' h (.inr ⟨hq.symm, hm⟩))
  · exact absurd hv (hv'.lt_of_apart h' h (.inl hq))

/-- What is near a positive float is positive. -/
theorem Near.pos (hm : 0 < m) (h : Near m q v) : 0 < v := by
  refine lt_of_lt_of_le ?_ h.bounds.1
  have hreach := one_le_reach m q
  exact mul_pos (by exact_mod_cast (by omega : 0 < 4 * m - reach m q)) (two_zpow_pos _)

/-- A float is near itself. -/
theorem near_self (m : Nat) (q : Int) : Near m q (m * 2 ^ q) := by
  have hquarters : (m : ℚ) * 2 ^ q = (4 * m : Nat) * 2 ^ (q - 2) := by
    rw [zpow_sub₀ (by norm_num)]
    push_cast
    ring
  have hpos := two_zpow_pos (q - 2)
  have hreach := one_le_reach m q
  rw [hquarters, Near, lowEnd, highEnd]
  simp only [mul_le_mul_iff_left₀ hpos, mul_lt_mul_iff_left₀ hpos, Nat.cast_le, Nat.cast_lt]
  split <;> omega

/-! ## Grids -/

/-- The number that a decimal is. -/
def Decimal.value (d : Decimal) : ℚ :=
  d.count * 10 ^ d.unit

/-- The scale on which a grid and a binary value are compared. -/
def scale (unit q : Int) : ℚ :=
  10 ^ (-unit).toNat * 2 ^ (-q).toNat

theorem scale_pos (unit q : Int) : 0 < scale unit q := by
  unfold scale
  positivity

/-- A power without its negative part. -/
theorem zpow_mul_pow_neg {b : ℚ} (hb : b ≠ 0) (n : Int) :
    b ^ n * b ^ (-n).toNat = b ^ n.toNat := by
  rw [← zpow_natCast, ← zpow_natCast, ← zpow_add₀ hb]
  congr 1
  omega

theorem scaleUp_cast (base : Nat) (n : Int) (m : Nat) :
    (scaleUp base n m : ℚ) = m * base ^ n.toNat := by
  change ((m * base ^ n.toNat : Nat) : ℚ) = _
  rw [Nat.cast_mul, Nat.cast_pow]

theorem onGrid_cast (unit q : Int) (c : Nat) :
    (onGrid unit q c : ℚ) = c * 10 ^ unit * scale unit q := by
  calc (onGrid unit q c : ℚ)
      = c * 10 ^ unit.toNat * 2 ^ (-q).toNat := by
        rw [onGrid, scaleUp_cast, scaleUp_cast]
        norm_cast
    _ = c * (10 ^ unit * 10 ^ (-unit).toNat) * 2 ^ (-q).toNat := by
        rw [zpow_mul_pow_neg (by norm_num)]
    _ = c * 10 ^ unit * scale unit q := by
        rw [scale]
        ring

theorem onBinary_cast (unit q : Int) (m : Nat) :
    (onBinary unit q m : ℚ) = m * 2 ^ q * scale unit q := by
  calc (onBinary unit q m : ℚ)
      = m * 2 ^ q.toNat * 10 ^ (-unit).toNat := by
        rw [onBinary, scaleUp_cast, scaleUp_cast]
        norm_cast
    _ = m * (2 ^ q * 2 ^ (-q).toNat) * 10 ^ (-unit).toNat := by
        rw [zpow_mul_pow_neg (by norm_num)]
    _ = m * 2 ^ q * scale unit q := by
        rw [scale]
        ring

theorem onBinary_le_onGrid_iff {unit : Int} {n c : Nat} :
    onBinary unit q n ≤ onGrid unit q c ↔ (n : ℚ) * 2 ^ q ≤ c * 10 ^ unit := by
  rw [← Nat.cast_le (α := ℚ), onGrid_cast, onBinary_cast, mul_le_mul_iff_left₀ (scale_pos unit q)]

theorem onGrid_le_onBinary_iff {unit : Int} {n c : Nat} :
    onGrid unit q c ≤ onBinary unit q n ↔ (c : ℚ) * 10 ^ unit ≤ n * 2 ^ q := by
  rw [← Nat.cast_le (α := ℚ), onGrid_cast, onBinary_cast, mul_le_mul_iff_left₀ (scale_pos unit q)]

/-- The test for reading back is exact. -/
theorem readsBack_iff {unit : Int} {c : Nat} :
    readsBack m q unit c = true ↔ Near m q (c * 10 ^ unit) := by
  have htest : readsBack m q unit c =
      let low := onBinary unit (q - 2) (4 * m - reach m q)
      let high := onBinary unit (q - 2) (4 * m + 2)
      let point := onGrid unit (q - 2) c
      if m % 2 = 0 then low ≤ point && point ≤ high else low < point && point < high := rfl
  by_cases heven : m % 2 = 0
  · simp only [htest, Near, lowEnd, highEnd, heven, if_true, Bool.and_eq_true, decide_eq_true_eq,
      onBinary_le_onGrid_iff, onGrid_le_onBinary_iff]
  · simp only [htest, Near, lowEnd, highEnd, heven, if_false, Bool.and_eq_true,
      decide_eq_true_eq, ← not_le, onBinary_le_onGrid_iff, onGrid_le_onBinary_iff]

/-! ## The shortest decimal -/

theorem near_of_shortestOn? {digits : Nat} {d : Decimal} (h : shortestOn? m q digits = some d) :
    Near m q d.value := by
  unfold shortestOn? at h
  dsimp only at h
  split at h
  · rename_i hbelow habove
    obtain rfl := Option.some.inj h
    rw [Decimal.value, ← readsBack_iff]
    dsimp only
    split
    · exact hbelow
    · exact habove
  · rename_i hbelow _
    obtain rfl := Option.some.inj h
    exact readsBack_iff.mp hbelow
  · rename_i _ habove
    obtain rfl := Option.some.inj h
    exact readsBack_iff.mp habove
  · cases h

theorem value_ofBinary (m : Nat) (q : Int) : (Decimal.ofBinary m q).value = m * 2 ^ q := by
  unfold Decimal.ofBinary Decimal.value
  split
  · rename_i hq
    rw [scaleUp_cast, zpow_zero, mul_one, ← zpow_natCast, Int.toNat_of_nonneg hq]
    rfl
  · calc ((scaleUp 5 (-q) m : Nat) : ℚ) * 10 ^ q
        = m * 2 ^ q * (5 ^ q * 5 ^ (-q).toNat) := by
          rw [scaleUp_cast, show (10 : ℚ) = 2 * 5 by norm_num, mul_zpow]
          push_cast
          ring
      _ = m * 2 ^ q := by
          rw [zpow_mul_pow_neg (by norm_num), Int.toNat_of_nonpos (by omega), pow_zero, mul_one]

/-- The decimal that a float is written with is near the float. -/
theorem near_shortest (m : Nat) (q : Int) : Near m q (shortest m q).value := by
  unfold shortest
  cases h : (List.range enoughDigits).findSome? fun n => shortestOn? m q (n + 1) with
  | none =>
      rw [Option.getD_none, value_ofBinary]
      exact near_self m q
  | some d =>
      obtain ⟨n, -, hn⟩ := List.exists_of_findSome?_eq_some h
      exact near_of_shortestOn? hn

/-! ## Floats as canonical pairs -/

theorem Exact.canonical_ofFloat {x : Float} {negative : Bool}
    (h : Exact.ofFloat x = .finite negative m q) : Canonical m q := by
  have hfraction := Nat.mod_lt x.toBits.toNat (show 0 < leastFullMantissa by decide)
  unfold Exact.ofFloat at h
  dsimp only at h
  split at h
  · split at h <;> cases h
  · split at h
    · cases h
      exact .inl ⟨hfraction, rfl⟩
    · cases h
      exact .inr ⟨by omega, by omega, by omega⟩

open Float.Model Float.Model.UnpackedFloat in
/-- There is one bit pattern for what is no number. -/
theorem toBits_of_nan {x : Float} (h : Exact.ofFloat x = .nan) :
    x.toBits.toBitVec = packedNaN Format.binary64 := by
  unfold Exact.ofFloat at h
  dsimp only at h
  split at h
  · rename_i hfield
    split at h
    · cases h
    · rename_i hfraction
      refine x.toModel.valid.eq_packedNaN (BitVec.eq_of_toNat_eq ?_) fun hzero => hfraction ?_
      · simp only [unpackExponent, BitVec.toNat_cast, BitVec.extractLsb_toNat,
          Nat.shiftRight_eq_div_pow]
        exact hfield
      · have hzero' := congrArg BitVec.toNat hzero
        simp only [unpackMantissa, BitVec.toNat_cast, BitVec.extractLsb_toNat,
          Nat.shiftRight_zero] at hzero'
        exact hzero'
  · split at h <;> cases h

/-- The bit pattern of an exact value. -/
def Exact.bits : Exact → Nat
  | .nan => 2047 * leastFullMantissa + leastFullMantissa / 2
  | .infinite negative => (if negative then 2 ^ 63 else 0) + 2047 * leastFullMantissa
  | .finite negative m q => (if negative then 2 ^ 63 else 0) +
      if m < leastFullMantissa then m else (q - leastExponent).toNat * leastFullMantissa + m

/-- The three fields of a bit pattern. -/
theorem fields_eq {n : Nat} (h : n < 2 ^ 64) :
    (if decide (Nat.pow 2 63 ≤ n) then 2 ^ 63 else 0) +
      (n / leastFullMantissa % Nat.pow 2 11 * leastFullMantissa + n % leastFullMantissa) = n := by
  rw [show Nat.pow 2 63 = 9223372036854775808 by decide, show Nat.pow 2 11 = 2048 by decide,
    leastFullMantissa_eq]
  simp only [decide_eq_true_eq]
  split <;> omega

/-- The bit pattern can be told from what is read off it. -/
theorem Exact.bits_ofFloat (x : Float) : (Exact.ofFloat x).bits = x.toBits.toNat := by
  by_cases hnan : Exact.ofFloat x = .nan
  · rw [hnan]
    exact (congrArg BitVec.toNat (toBits_of_nan hnan)).symm
  · have hfields := fields_eq x.toBits.toNat_lt
    unfold Exact.ofFloat at hnan ⊢
    dsimp only at hnan ⊢
    split
    · rename_i hfield
      rw [if_pos hfield] at hnan
      split
      · rename_i hfraction
        rw [hfield, hfraction] at hfields
        exact hfields
      · rename_i hfraction
        exact absurd (if_neg hfraction) hnan
    · split
      · rename_i hfield
        rw [hfield, Nat.zero_mul, Nat.zero_add] at hfields
        rw [Exact.bits, if_pos (Nat.mod_lt _ (by decide)), hfields]
      · rename_i hfield
        -- the field counts exponents from one on, the leading bit of the mantissa makes up for it
        obtain ⟨field, hsucc⟩ := Nat.exists_eq_succ_of_ne_zero hfield
        rw [hsucc, Nat.succ_mul, Nat.add_right_comm, Nat.add_assoc (field * _)] at hfields
        rw [Exact.bits, if_neg (Nat.not_lt.mpr (Nat.le_add_left _ _)), hsucc,
          add_sub_cancel_left, Int.toNat_natCast, Nat.succ_sub_one, hfields]

/-- No two floats stand for the same. -/
theorem Exact.ofFloat_injective : Function.Injective Exact.ofFloat := by
  intro x y h
  have hbits : x.toBits.toNat = y.toBits.toNat := by
    rw [← bits_ofFloat, ← bits_ofFloat, h]
  obtain ⟨⟨a, ha⟩⟩ := x
  obtain ⟨⟨b, hb⟩⟩ := y
  obtain rfl : a = b := UInt64.toNat_inj.mp hbits
  rfl

end Reckoner.Number
