import PropertyFilter.Json.Number
import PropertyFilter.Proofs.Number.Shortest

/-!
  # Scaling by powers of ten

  A number in JSON is found in steps: its significand is rounded, the power of ten is rounded,
  and so is their product or quotient. Where the first two steps are exact, only the last one
  rounds:

      significand  ≤ 2^53     exact
      power        ≤ 10^22    exact

  Division makes nothing larger, and a product leaves the finite numbers only if the decimal
  does: the largest shortest decimals are checked one power at a time.

  Main statements: a decimal within these bounds is read as the number it rounds to
  (`scaled?_exact`), and the shortest decimal of a finite number is read as a finite number
  (`exists_scaled?_shown`).
-/

namespace PropertyFilter

open Binary64

namespace Json

/-! ## Section 1: Exact steps -/

section exact
variable {d : Decimal} {r : ℕ}

/-- **Exact steps.** A decimal of at most 53 bits, and within the powers of ten that have a
rank, is read as the number that it rounds to. -/
theorem scaled?_exact (hdigits : d.digits ≤ 2 ^ 53) (hlow : -22 ≤ d.exponent)
    (hhigh : d.exponent ≤ 22) (hr : r < rankLimit) (h : Nearest r d.units) :
    scaled? d.digits d.exponent = some r := by
  have hwhole := units_nearest_of_le hdigits
  unfold scaled?
  dsimp only
  by_cases hneg : d.exponent < 0
  · obtain ⟨e, he⟩ := Int.eq_ofNat_of_zero_le (show 0 ≤ -d.exponent by omega)
    rw [if_pos hneg, he, Int.toNat_natCast]
    obtain ⟨e, rfl⟩ := Nat.exists_eq_add_of_le' (show 1 ≤ e by omega)
    unfold dividedByTen
    have hten : e + 1 ≤ largestTen := le_trans (by omega : e + 1 ≤ 22) (by decide)
    rw [if_pos hten, divRank_eq hwhole (units_tenRank (by omega)) (by positivity)]
    rw [Decimal.units_of_neg (e := e + 1) (by omega), ← nearest_eq_iff (by positivity)] at h
    rw [h]
  · obtain ⟨e, he⟩ := Int.eq_ofNat_of_zero_le (show 0 ≤ d.exponent by omega)
    have hten : d.exponent ≤ largestTen := le_trans hhigh (by decide)
    rw [if_neg hneg, if_pos hten, he, Int.toNat_natCast,
      mulRank_eq hwhole (units_tenRank (by omega))]
    rw [Decimal.units_of_nonneg he, ← nearest_eq_iff one_pos] at h
    rw [h, if_pos hr]

end exact

/-! ## Section 2: Division -/

theorem unitsOfOne_le_tenRank (e : ℕ) : unitsOfOne ≤ Binary64.units (tenRank e) := by
  have hmono : tenRank 0 ≤ tenRank e :=
    nearest_mono one_pos one_pos (Nat.mul_le_mul_right 1 (Nat.pow_le_pow_right (by decide) (Nat.zero_le e)))
  have hone : Binary64.units (tenRank 0) = 10 ^ 0 * unitsOfOne := units_tenRank (by decide)
  calc unitsOfOne = Binary64.units (tenRank 0) := by rw [hone, Nat.pow_zero, Nat.one_mul]
    _ ≤ Binary64.units (tenRank e) := units_strictMono.monotone hmono

theorem divRank_tenRank_le (r e : ℕ) : divRank r (tenRank e) ≤ r :=
  nearest_le (unitsOfOne_pos.trans_le (unitsOfOne_le_tenRank e))
    (Nat.mul_le_mul_left _ (unitsOfOne_le_tenRank e))

/-- Division by a power of ten makes no number larger. -/
theorem dividedByTen_le (fuel r e : ℕ) : dividedByTen fuel r e ≤ r := by
  induction fuel generalizing r e with
  | zero => exact divRank_tenRank_le r e
  | succ fuel ih =>
    unfold dividedByTen
    split_ifs
    · exact divRank_tenRank_le r e
    · exact Nat.zero_le r
    · exact (ih _ _).trans (divRank_tenRank_le r largestTen)

/-! ## Section 3: Multiplication -/

section multiplication
variable {n e r : ℕ}

theorem mulRank_mono {r s r' s' : ℕ} (hr : r ≤ r') (hs : s ≤ s') : mulRank r s ≤ mulRank r' s' := by
  have hpos : 0 < Nat.pow 2 2148 := by
    rw [← unitsOfOne_mul_self]
    exact Nat.mul_pos unitsOfOne_pos unitsOfOne_pos
  exact nearest_mono hpos hpos (Nat.mul_le_mul_right _
    (Nat.mul_le_mul (units_strictMono.monotone hr) (units_strictMono.monotone hs)))

theorem mulRank_tenRank_mono {n m e f : ℕ} (hn : n ≤ m) (he : e ≤ f) :
    mulRank (nearest n 1) (tenRank e) ≤ mulRank (nearest m 1) (tenRank f) :=
  mulRank_mono (nearest_mono one_pos one_pos (by omega))
    (nearest_mono one_pos one_pos (Nat.mul_le_mul_right 1 (Nat.pow_le_pow_right (by decide) he)))

/-- The largest decimals that round to a number below the largest one: at each of the last
powers of ten the product is finite. -/
theorem mulRank_last_powers : ∀ k < 17,
    mulRank (nearest ((2 ^ 54 - 3) * 2 ^ 970 / 10 ^ (292 + k)) 1) (tenRank (292 + k)) <
      rankLimit := by
  decide +kernel

theorem largest_product_lt : (2 ^ 54 - 3) * 2 ^ 970 < 10 ^ 309 := by decide +kernel

/-- The product is finite if the decimal rounds to a number below the largest one. -/
theorem mulRank_lt (hpos : 0 < n) (hn : n ≤ 10 ^ 17) (h : n * 10 ^ e ≤ (2 ^ 54 - 3) * 2 ^ 970) :
    e ≤ largestTen ∧ mulRank (nearest n 1) (tenRank e) < rankLimit := by
  by_cases hsmall : e ≤ 291
  · refine ⟨hsmall.trans (by decide), (mulRank_tenRank_mono hn hsmall).trans_lt ?_⟩
    decide +kernel
  · -- the bound itself has 309 digits
    obtain ⟨m, hm⟩ : ∃ m, m = 309 := ⟨_, rfl⟩
    have hten : 10 ^ e < 10 ^ m := by
      rw [hm]
      exact ((Nat.le_mul_of_pos_left _ hpos).trans h).trans_lt largest_product_lt
    have hlast : e < m := (Nat.pow_lt_pow_iff_right (by decide)).mp hten
    rw [hm] at hlast
    obtain ⟨k, rfl⟩ := Nat.exists_eq_add_of_le (show 292 ≤ e by omega)
    have hbound := (Nat.le_div_iff_mul_le (Nat.pow_pos (by decide))).mpr h
    exact ⟨Nat.le_of_lt_succ hlast,
      (mulRank_tenRank_mono hbound le_rfl).trans_lt (mulRank_last_powers k (by omega))⟩

end multiplication

/-! ## Section 4: Decimals as they are written -/

/-- A decimal as its text says it: a whole number that is written in full has a zero behind
the point. -/
def shown (d : Decimal) : Decimal :=
  if 0 ≤ d.exponent ∧ d.exponent + (Digits.toDigits d.digits).length ≤ 16 then
    ⟨d.digits * 10 ^ (d.exponent.toNat + 1), -1⟩
  else d

section shown
variable {d : Decimal} {r : ℕ}

theorem shown_units (d : Decimal) : (shown d).units = d.units := by
  unfold shown
  split
  · next h =>
    obtain ⟨e, he⟩ := Int.eq_ofNat_of_zero_le h.1
    unfold Decimal.units
    rw [he, Int.toNat_natCast, zpow_natCast]
    push_cast
    rw [pow_succ, zpow_neg_one]
    ring
  · rfl

theorem shown_digits_pos (h : 0 < d.digits) : 0 < (shown d).digits := by
  unfold shown
  split
  · exact Nat.mul_pos h (by positivity)
  · exact h

theorem shown_digits_le (h : d.digits ≤ 10 ^ 17) : (shown d).digits ≤ 10 ^ 17 := by
  unfold shown
  split
  · next hwhole =>
    calc d.digits * 10 ^ (d.exponent.toNat + 1)
        ≤ 10 ^ (Digits.toDigits d.digits).length * 10 ^ (d.exponent.toNat + 1) :=
          Nat.mul_le_mul_right _ (Digits.lt_pow_length d.digits).le
      _ = 10 ^ ((Digits.toDigits d.digits).length + (d.exponent.toNat + 1)) := (Nat.pow_add ..).symm
      _ ≤ 10 ^ 17 := Nat.pow_le_pow_right (by decide) (by omega)
  · exact h

/-- A decimal that rounds to a number below the largest one is below the point halfway to the
largest one. -/
theorem digits_mul_pow_le {e : ℕ} (he : d.exponent = e) (hr : r + 1 < rankLimit)
    (h : Nearest r d.units) : d.digits * 10 ^ e ≤ (2 ^ 54 - 3) * 2 ^ 970 := by
  obtain ⟨q, hq⟩ : ∃ q, q = 2045 := ⟨_, rfl⟩
  obtain ⟨m, hm⟩ : ∃ m, m = 970 := ⟨_, rfl⟩
  -- the two largest numbers, with the point halfway between them
  have hprevious : Binary64.units (rankLimit - 2) = (2 ^ 53 - 2) * 2 ^ q := by
    rw [show rankLimit - 2 = q * 2 ^ 52 + (2 ^ 53 - 2) by rw [hq]; rfl]
    exact units_eq (by decide) (Or.inr (by decide))
  have hlast : Binary64.units (rankLimit - 1) = (2 ^ 53 - 1) * 2 ^ q := by
    rw [show rankLimit - 1 = q * 2 ^ 52 + (2 ^ 53 - 1) by rw [hq]; rfl]
    exact units_eq (by decide) (Or.inr (by decide))
  have hpow : 2 ^ q = 2 ^ (m + 1) * unitsOfOne := by
    rw [← pow_add_unitsOfOne, hq, hm]
  have hsum : Binary64.units r + Binary64.units (r + 1) ≤ (2 ^ 54 - 3) * 2 ^ q :=
    calc Binary64.units r + Binary64.units (r + 1)
        ≤ Binary64.units (rankLimit - 2) + Binary64.units (rankLimit - 1) :=
          Nat.add_le_add (units_strictMono.monotone (by omega))
            (units_strictMono.monotone (by omega))
      _ = (2 ^ 54 - 3) * 2 ^ q := by rw [hprevious, hlast, ← Nat.add_mul]; rfl
  have hbound : 2 * d.units ≤ Binary64.units r + Binary64.units (r + 1) :=
    h.notAbove.elim le_of_lt fun heq => heq.1.le
  rw [Decimal.units, he, zpow_natCast] at hbound
  have htwice : 2 * (d.digits * 10 ^ e * unitsOfOne) ≤ (2 ^ 54 - 3) * 2 ^ q :=
    le_trans (by exact_mod_cast hbound) hsum
  have hhalf : (2 ^ 54 - 3) * 2 ^ q = 2 * ((2 ^ 54 - 3) * 2 ^ m * unitsOfOne) := by
    rw [hpow]
    ring
  rw [hhalf] at htwice
  rw [← hm]
  exact Nat.le_of_mul_le_mul_right (Nat.le_of_mul_le_mul_left htwice two_pos) unitsOfOne_pos

/-- The significand as it is written is rounded to a finite number. -/
theorem nearest_lt_rankLimit {n : ℕ} (hn : n ≤ 10 ^ 17) : nearest n 1 < rankLimit :=
  (nearest_mono one_pos one_pos (by omega : n * 1 ≤ 10 ^ 17 * 1)).trans_lt (by decide +kernel)

/-- A decimal is read as a finite number if it is a fraction, or below the point halfway to the
largest number. -/
theorem exists_scaled? (hpos : 0 < d.digits) (hle : d.digits ≤ 10 ^ 17)
    (hbound : ∀ e : ℕ, d.exponent = e → d.digits * 10 ^ e ≤ (2 ^ 54 - 3) * 2 ^ 970) :
    ∃ s < rankLimit, scaled? d.digits d.exponent = some s := by
  unfold scaled?
  dsimp only
  by_cases hneg : d.exponent < 0
  · rw [if_pos hneg]
    exact ⟨_, (dividedByTen_le _ _ _).trans_lt (nearest_lt_rankLimit hle), rfl⟩
  · obtain ⟨e, he⟩ := Int.eq_ofNat_of_zero_le (show 0 ≤ d.exponent by omega)
    obtain ⟨hten, hfinite⟩ := mulRank_lt hpos hle (hbound e he)
    rw [if_neg hneg, he, if_pos (by exact_mod_cast hten), Int.toNat_natCast, if_pos hfinite]
    exact ⟨_, hfinite, rfl⟩

/-- The largest number by itself: its shortest decimal is above the point halfway to it. -/
theorem ofRank_largest :
    Shortest.ofRank .even (rankLimit - 1) = ⟨17976931348623157, 292⟩ ∧
      scaled? 17976931348623157 292 = some (rankLimit - 1) := by
  constructor <;> decide +kernel

/-- **Finite numbers stay finite**: what is written for a finite number is read as one. -/
theorem exists_scaled?_shown (hpos : 0 < r) (hr : r < rankLimit) :
    ∃ s < rankLimit,
      scaled? (shown (Shortest.ofRank .even r)).digits (shown (Shortest.ofRank .even r)).exponent =
        some s := by
  by_cases hlargest : r = rankLimit - 1
  · obtain ⟨hdecimal, hscaled⟩ := ofRank_largest
    have hshown : shown ⟨17976931348623157, 292⟩ = ⟨17976931348623157, 292⟩ := by decide +kernel
    rw [hlargest, hdecimal, hshown]
    exact ⟨_, by decide, hscaled⟩
  · have hd := Shortest.ofRank_spec .even hpos
    refine exists_scaled? (shown_digits_pos hd.digits_pos) (shown_digits_le hd.digits_le) ?_
    intro e he
    have hnearest : Nearest r (shown (Shortest.ofRank .even r)).units := by
      rw [shown_units]
      exact hd.nearest
    exact digits_mul_pow_le he (by omega) hnearest

end shown

end Json

end PropertyFilter
