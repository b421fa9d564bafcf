import PropertyFilter.Proofs.Number.Shortest

/-!
  # Decimals round to numbers

  Every decimal fraction has a rank that it rounds to, and the number of this rank is the one
  that is found for it. Where the leading digit is far from the point the rank is not computed:

      point < -400     less than half a unit     zero
      400 < point      beyond all finite ones    infinite

  Main statement: the number of a decimal is the one that it rounds to, whatever its digits and
  its exponent (`toBinary64_eq_iff`), so that these two bounds save work only.
-/

namespace PropertyFilter.Decimal

open Binary64

/-- `d.RoundsTo negative x`: the number `x` has that sign and the rank nearest to `d`, and is
infinite if there is no finite number of this rank. -/
def RoundsTo (d : Decimal) (negative : Bool) (x : Binary64) : Prop :=
  ∃ r, Nearest r d.units ∧ x = .ofRank negative r

/-- The place of the point, counted from the leading digit. -/
def point (d : Decimal) : ℤ := d.exponent + (Digits.toDigits d.digits).length

variable {d : Decimal}

/-! ## Section 1: The size of a decimal -/

theorem units_nonneg (d : Decimal) : 0 ≤ d.units := by
  unfold Decimal.units
  positivity

theorem units_lt (d : Decimal) : d.units < 10 ^ d.point * unitsOfOne := by
  have hdigits : (d.digits : ℚ) < 10 ^ (Digits.toDigits d.digits).length := by
    exact_mod_cast Digits.lt_pow_length d.digits
  have hexponent : (0 : ℚ) < 10 ^ d.exponent := by positivity
  unfold Decimal.units point
  rw [zpow_add₀ (by norm_num), zpow_natCast, mul_comm (d.digits : ℚ)]
  exact mul_lt_mul_of_pos_right (mul_lt_mul_of_pos_left hdigits hexponent)
    Shortest.unitsOfOne_posQ

theorem le_units (hpos : 0 < d.digits) : 10 ^ (d.point - 1) * unitsOfOne ≤ d.units := by
  obtain ⟨l, hl⟩ := Nat.exists_eq_add_of_le' (Digits.length_toDigits_pos d.digits)
  have hlow := Digits.pow_length_le hpos
  rw [hl, Nat.add_sub_cancel] at hlow
  have hdigits : (10 : ℚ) ^ l ≤ d.digits := by exact_mod_cast hlow
  have hexponent : (0 : ℚ) ≤ 10 ^ d.exponent := by positivity
  have hplace : d.point - 1 = d.exponent + l := by
    unfold point
    omega
  unfold Decimal.units
  rw [hplace, zpow_add₀ (by norm_num), zpow_natCast, mul_comm (d.digits : ℚ)]
  exact mul_le_mul_of_nonneg_right (mul_le_mul_of_nonneg_left hdigits hexponent)
    Shortest.unitsOfOne_posQ.le

/-- A decimal that is zero, or less than half a unit, rounds to zero. -/
theorem nearest_zero (h : d.digits = 0 ∨ d.point < -400) : Nearest 0 d.units := by
  have hzero : (Binary64.units 0 : ℚ) = 0 := by simp [Binary64.units]
  have hone : (Binary64.units 1 : ℚ) = 1 := by simp [Binary64.units]
  have hhalf : 2 * d.units < 1 := by
    rcases h with hdigits | hpoint
    · simp [Decimal.units, hdigits]
    · -- the exponent is a variable, so that its power of ten is not written out
      obtain ⟨m, hm⟩ : ∃ m, m = 400 := ⟨_, rfl⟩
      have hunit : (unitsOfOne : ℚ) ≤ 10 ^ m := by
        exact_mod_cast unitsOfOne_le_ten_pow hm.ge
      have hplace : (10 : ℚ) ^ d.point ≤ 10 ^ (-(m : ℤ) - 1) :=
        zpow_le_zpow_right₀ (by norm_num) (by omega)
      have hten : (10 : ℚ) ^ (-(m : ℤ) - 1) * 10 ^ m = 1 / 10 := by
        rw [← zpow_natCast, ← zpow_add₀ (by norm_num), show -(m : ℤ) - 1 + m = -1 by omega]
        norm_num
      have hbound : (10 : ℚ) ^ d.point * unitsOfOne ≤ 10 ^ (-(m : ℤ) - 1) * 10 ^ m :=
        mul_le_mul hplace hunit Shortest.unitsOfOne_posQ.le (by positivity)
      have hsmall := d.units_lt
      linarith
  refine ⟨notBelow_of_le ?_, Or.inl ?_⟩
  · rw [hzero]
    exact d.units_nonneg
  · rw [hzero, hone]
    linarith

/-- A decimal of more than four hundred digits in front of the point is beyond all finite
numbers. -/
theorem rankLimit_le (hpos : 0 < d.digits) (hpoint : 400 < d.point) {r : ℕ}
    (hr : Nearest r d.units) : rankLimit ≤ r := by
  -- a variable, as above
  obtain ⟨k, hk⟩ : ∃ k, k = 342 := ⟨_, rfl⟩
  have hlast : (Binary64.units rankLimit : ℚ) ≤ 10 ^ (k : ℤ) * unitsOfOne := by
    rw [zpow_natCast]
    exact_mod_cast units_rankLimit_le hk.ge
  have hplace : (10 : ℚ) ^ (k : ℤ) ≤ 10 ^ (d.point - 1) :=
    zpow_le_zpow_right₀ (by norm_num) (by omega)
  have hstep := mul_le_mul_of_nonneg_right hplace Shortest.unitsOfOne_posQ.le
  exact (nearest_units rankLimit).mono hr (hlast.trans (hstep.trans (le_units hpos)))

/-! ## Section 2: The nearest number -/

/-- Every decimal has a rank that it rounds to. -/
theorem exists_nearest (d : Decimal) : ∃ r, Nearest r d.units := by
  by_cases hneg : d.exponent < 0
  · obtain ⟨e, he⟩ := Int.eq_ofNat_of_zero_le (show 0 ≤ -d.exponent by omega)
    rw [units_of_neg (e := e) (by omega)]
    exact ⟨_, nearest_spec _ (by positivity)⟩
  · obtain ⟨e, he⟩ := Int.eq_ofNat_of_zero_le (show 0 ≤ d.exponent by omega)
    rw [units_of_nonneg he]
    exact ⟨_, nearest_spec _ one_pos⟩

theorem toBinary64_roundsTo (d : Decimal) (negative : Bool) :
    d.RoundsTo negative (d.toBinary64 negative) := by
  have hpoint : d.exponent + (Digits.toDigits d.digits).length = d.point := rfl
  have hpow (k : ℕ) : Nat.pow 10 k = 10 ^ k := rfl
  unfold toBinary64
  dsimp only
  rw [hpoint]
  split_ifs with hsmall hlarge hneg
  · -- zero is the fraction with the numerator zero
    have hzero : nearest 0 1 = 0 := nearest_of_units one_pos (by simp [Binary64.units])
    refine ⟨0, nearest_zero (by simpa using hsmall), ?_⟩
    rw [ofFraction, hzero]
  · obtain ⟨r, hr⟩ := d.exists_nearest
    have hpos : 0 < d.digits := by
      have hne : d.digits ≠ 0 := by
        intro h
        simp [h] at hsmall
      omega
    refine ⟨r, hr, ?_⟩
    rw [ofRank, dif_neg (Nat.not_lt.mpr (rankLimit_le hpos hlarge hr))]
  · obtain ⟨e, he⟩ := Int.eq_ofNat_of_zero_le hneg
    refine ⟨nearest (d.digits * 10 ^ e) 1, ?_, ?_⟩
    · rw [units_of_nonneg he]
      exact nearest_spec _ one_pos
    · rw [he, Int.toNat_natCast, hpow]
      rfl
  · obtain ⟨e, he⟩ := Int.eq_ofNat_of_zero_le (show 0 ≤ -d.exponent by omega)
    refine ⟨nearest d.digits (10 ^ e), ?_, ?_⟩
    · rw [units_of_neg (e := e) (by omega)]
      exact nearest_spec _ (by positivity)
    · rw [he, Int.toNat_natCast, hpow]
      rfl

/-- **The number of a decimal** is the one that it rounds to, and there is no other. -/
theorem toBinary64_eq_iff {negative : Bool} {x : Binary64} :
    d.toBinary64 negative = x ↔ d.RoundsTo negative x := by
  constructor
  · rintro rfl
    exact d.toBinary64_roundsTo negative
  · rintro ⟨r, hr, rfl⟩
    obtain ⟨s, hs, heq⟩ := d.toBinary64_roundsTo negative
    obtain rfl : s = r := hs.unique hr
    exact heq

end PropertyFilter.Decimal
