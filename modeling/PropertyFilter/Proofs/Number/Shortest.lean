import Mathlib.Algebra.Order.Field.Power
import Mathlib.Tactic.Positivity
import PropertyFilter.Number.Shortest
import PropertyFilter.Proofs.Number.Digits
import PropertyFilter.Proofs.Number.Rounding

/-!
  # Shortest decimals round back

  The search for the shortest decimal of a number tries finer and finer grids, with one digit
  more each time, and on each of them the two neighbours of the number:

      n * 10^g   ≤   number   <   (n + 1) * 10^g

  With seventeen digits the grid is finer than the numbers of the format are, so that one of
  the neighbours rounds to the number and the search ends.

  Main statement: the shortest decimal has at most seventeen digits and rounds to its number
  (`ofRank_spec`).
-/

namespace PropertyFilter

open Binary64

/-- A decimal fraction in units. -/
def Decimal.units (d : Decimal) : ℚ := d.digits * 10 ^ d.exponent * unitsOfOne

/-- A decimal in units, its exponent being a power to multiply with. -/
theorem Decimal.units_of_nonneg {d : Decimal} {e : ℕ} (he : d.exponent = e) :
    d.units = fractionUnits (d.digits * 10 ^ e) 1 := by
  unfold Decimal.units fractionUnits
  rw [he, zpow_natCast]
  push_cast
  ring

/-- A decimal in units, its exponent being a power to divide by. -/
theorem Decimal.units_of_neg {d : Decimal} {e : ℕ} (he : d.exponent = -e) :
    d.units = fractionUnits d.digits (10 ^ e) := by
  unfold Decimal.units fractionUnits
  rw [he, zpow_neg, zpow_natCast]
  push_cast
  ring

/-- One unit is more than `10^-400`. -/
theorem Binary64.unitsOfOne_le_ten_pow {m : ℕ} (hm : 400 ≤ m) : unitsOfOne ≤ 10 ^ m := by
  obtain ⟨k, hk, hone⟩ := exists_unitsOfOne_eq
  rw [← hone]
  calc Nat.pow 2 k ≤ 2 ^ (3 * m) := Nat.pow_le_pow_right (by decide) (by omega)
    _ = (2 ^ 3) ^ m := Nat.pow_mul 2 3 m
    _ ≤ 10 ^ m := Nat.pow_le_pow_left (by decide) m

/-- Finite numbers end at `2^1024`, which is below `10^342`. -/
theorem Binary64.units_rankLimit_le {k : ℕ} (hk : 342 ≤ k) :
    Binary64.units rankLimit ≤ 10 ^ k * unitsOfOne := by
  -- the exponents have names, so that nothing tries to write the powers down
  obtain ⟨q, hq⟩ : ∃ q, q = 2045 := ⟨_, rfl⟩
  obtain ⟨m, hm⟩ : ∃ m, m = 971 := ⟨_, rfl⟩
  have hpow : 2 ^ q = 2 ^ m * unitsOfOne := by rw [← pow_add_unitsOfOne, hq, hm]
  have hlast : Binary64.units rankLimit = 2 ^ 53 * 2 ^ q := by
    rw [show rankLimit = q * 2 ^ 52 + 2 ^ 53 by rw [hq]; rfl]
    exact units_eq le_rfl (Or.inr (by decide))
  have hten : 2 ^ 53 * 2 ^ m ≤ 10 ^ k := by
    calc 2 ^ 53 * 2 ^ m = 2 ^ (53 + m) := (Nat.pow_add 2 53 m).symm
      _ ≤ 2 ^ (3 * k) := Nat.pow_le_pow_right (by decide) (by omega)
      _ = (2 ^ 3) ^ k := Nat.pow_mul 2 3 k
      _ ≤ 10 ^ k := Nat.pow_le_pow_left (by decide) k
  rw [hlast, hpow, ← Nat.mul_assoc]
  exact Nat.mul_le_mul_right _ hten

namespace Shortest

/-! ## Section 1: Exact comparisons -/

theorem unitsOfOne_posQ : (0 : ℚ) < unitsOfOne := by exact_mod_cast unitsOfOne_pos

/-- A negative exponent moved to the other side. -/
theorem ten_zpow_mul (g : ℤ) : (10 : ℚ) ^ g * 10 ^ (-g).toNat = 10 ^ g.toNat := by
  rw [← zpow_natCast, ← zpow_natCast, ← zpow_add₀ (by norm_num)]
  congr 1
  omega

theorem two_pow_eq : Nat.pow 2 1075 = 2 * unitsOfOne := by
  obtain ⟨k, hk, hone⟩ := exists_unitsOfOne_eq
  rw [← hone, show 1075 = k + 1 by omega]
  exact Nat.pow_succ'

section comparisons
variable {d : Decimal} {n r : ℕ}

theorem compareUnits_def (d : Decimal) (n : ℕ) :
    compareUnits d n = compare (d.digits * 10 ^ d.exponent.toNat * (2 * unitsOfOne))
      (n * 10 ^ (-d.exponent).toNat) := by
  rewrite [← two_pow_eq]
  rfl

/-- Both sides of a comparison with their common denominator. -/
theorem twice_units_mul (d : Decimal) :
    2 * d.units * 10 ^ (-d.exponent).toNat =
      (d.digits * 10 ^ d.exponent.toNat * (2 * unitsOfOne) : ℕ) := by
  push_cast
  rw [← ten_zpow_mul d.exponent, Decimal.units]
  ring

theorem compareUnits_lt : compareUnits d n = .lt ↔ 2 * d.units < n := by
  have hpos : (0 : ℚ) < 10 ^ (-d.exponent).toNat := by positivity
  rw [compareUnits_def, Nat.compare_eq_lt, ← mul_lt_mul_iff_of_pos_right hpos, twice_units_mul]
  exact_mod_cast Iff.rfl

theorem compareUnits_gt : compareUnits d n = .gt ↔ n < 2 * d.units := by
  have hpos : (0 : ℚ) < 10 ^ (-d.exponent).toNat := by positivity
  rw [compareUnits_def, Nat.compare_eq_gt, ← mul_lt_mul_iff_of_pos_right hpos, twice_units_mul]
  exact_mod_cast Iff.rfl

theorem compareUnits_eq : compareUnits d n = .eq ↔ 2 * d.units = n := by
  have hpos : (0 : ℚ) < 10 ^ (-d.exponent).toNat := by positivity
  rw [compareUnits_def, Nat.compare_eq_eq, ← mul_left_inj' hpos.ne', twice_units_mul]
  exact_mod_cast Iff.rfl

/-- A decimal that reads back rounds to the number. -/
theorem readsBack_iff : readsBack r d = true ↔ Nearest r d.units := by
  unfold readsBack
  simp only [Bool.and_eq_true, Bool.or_eq_true, decide_eq_true_eq, compareUnits_lt,
    compareUnits_gt, compareUnits_eq]
  push_cast
  constructor
  · rintro ⟨hbelow, habove⟩
    exact ⟨hbelow.imp id fun h => ⟨h.2.symm, h.1⟩, habove.imp id fun h => ⟨h.2, h.1⟩⟩
  · rintro ⟨hbelow, habove⟩
    exact ⟨hbelow.imp id fun h => ⟨h.2, h.1.symm⟩, habove.imp id fun h => ⟨h.2, h.1⟩⟩

end comparisons

/-! ## Section 2: The leading digit -/

/-- The scale of a quotient is the place of its leading digit. -/
theorem quotient_bounds {u one shift : ℕ} (hone : 0 < one) (hu : one ≤ u * 10 ^ shift) :
    let e : ℤ := (Digits.toDigits (u * 10 ^ shift / one)).length - shift
    (10 : ℚ) ^ (e - 1) * one ≤ u ∧ (u : ℚ) < 10 ^ e * one := by
  intro e
  have hquot : 0 < u * 10 ^ shift / one := Nat.div_pos hu hone
  have hlow := Digits.pow_length_le hquot
  have hhigh := Digits.lt_pow_length (u * 10 ^ shift / one)
  have hlength : 0 < (Digits.toDigits (u * 10 ^ shift / one)).length :=
    Digits.length_toDigits_pos _
  obtain ⟨l, hl⟩ := Nat.exists_eq_add_of_le' hlength
  have he : e = l + 1 - shift := by omega
  rw [hl] at hlow hhigh
  rw [Nat.add_sub_cancel, Nat.le_div_iff_mul_le hone] at hlow
  rw [Nat.div_lt_iff_lt_mul hone] at hhigh
  have hlowQ : (10 : ℚ) ^ l * one ≤ u * 10 ^ shift := by exact_mod_cast hlow
  have hhighQ : (u : ℚ) * 10 ^ shift < 10 ^ (l + 1) * one := by exact_mod_cast hhigh
  have hshift : (0 : ℚ) < 10 ^ shift := by positivity
  constructor
  · rw [he, show (l : ℤ) + 1 - shift - 1 = l - shift by omega, zpow_sub₀ (by norm_num), div_mul_eq_mul_div,
      div_le_iff₀ (by positivity)]
    exact_mod_cast hlowQ
  · rw [he, zpow_sub₀ (by norm_num), div_mul_eq_mul_div, lt_div_iff₀ (by positivity)]
    exact_mod_cast hhighQ

theorem scale_eq (r : ℕ) {m : ℕ} (hm : m = 400) :
    scale r = (Digits.toDigits (Binary64.units r * Nat.pow 10 m / unitsOfOne)).length - m := by
  have hmZ : (m : ℤ) = 400 := by rw [hm, Nat.cast_ofNat]
  unfold scale
  rewrite [unitsOfOne_eq, ← hmZ, ← hm]
  with_reducible rfl

/-- The first digit of a number stands right behind the point at its scale. -/
theorem scale_spec {r : ℕ} (hr : 0 < r) :
    (10 : ℚ) ^ (scale r - 1) * unitsOfOne ≤ Binary64.units r ∧
      (Binary64.units r : ℚ) < 10 ^ scale r * unitsOfOne := by
  obtain ⟨m, hm⟩ : ∃ m, m = 400 := ⟨_, rfl⟩
  have hunits : 0 < Binary64.units r :=
    (Nat.zero_le _).trans_lt (units_strictMono (show 0 < r by omega))
  have hshifted : unitsOfOne ≤ Binary64.units r * 10 ^ m :=
    (unitsOfOne_le_ten_pow hm.ge).trans (Nat.le_mul_of_pos_left _ hunits)
  have hbounds := quotient_bounds unitsOfOne_pos hshifted
  rw [scale_eq r hm]
  exact hbounds

/-- The leading digit of a finite number is not far from the point. -/
theorem scale_bounds {r : ℕ} (hr : 0 < r) (hfinite : r < rankLimit) :
    -400 ≤ scale r ∧ scale r ≤ 343 := by
  constructor
  · -- a length is not negative
    obtain ⟨n, hn⟩ : ∃ n, n = 400 := ⟨_, rfl⟩
    rw [scale_eq r hn]
    generalize (Digits.toDigits _).length = length
    omega
  · obtain ⟨k, hk⟩ : ∃ k, k = 342 := ⟨_, rfl⟩
    have harith : scale r - 1 ≤ (k : ℤ) → scale r ≤ 343 := by omega
    obtain ⟨hfirst, -⟩ := scale_spec hr
    have hbound : Binary64.units r ≤ 10 ^ k * unitsOfOne :=
      (units_strictMono.monotone hfinite.le).trans (units_rankLimit_le hk.ge)
    have hboundQ : (Binary64.units r : ℚ) ≤ 10 ^ k * unitsOfOne := by exact_mod_cast hbound
    have hzpow : (10 : ℚ) ^ (scale r - 1) ≤ 10 ^ (k : ℤ) := by
      rw [zpow_natCast]
      exact le_of_mul_le_mul_right (hfirst.trans hboundQ) unitsOfOne_posQ
    exact harith ((zpow_le_zpow_iff_right₀ (by norm_num)).mp hzpow)

/-! ## Section 3: The neighbours on a grid -/

section grid
variable {r : ℕ} {g : ℤ}

/-- The number lies between two neighbours on every grid. -/
theorem gridFloor_spec (r : ℕ) (g : ℤ) :
    (⟨gridFloor r g, g⟩ : Decimal).units ≤ Binary64.units r ∧
      Binary64.units r < (⟨gridFloor r g + 1, g⟩ : Decimal).units := by
  have hpow (k : ℕ) : Nat.pow 10 k = 10 ^ k := rfl
  have hfloor : gridFloor r g =
      Binary64.units r * 10 ^ (-g).toNat / (unitsOfOne * 10 ^ g.toNat) := by
    unfold gridFloor
    rewrite [unitsOfOne_eq, hpow, hpow]
    with_reducible rfl
  have hden : 0 < unitsOfOne * 10 ^ g.toNat := Nat.mul_pos unitsOfOne_pos (by positivity)
  have hlow := Nat.div_mul_le_self (Binary64.units r * 10 ^ (-g).toNat) (unitsOfOne * 10 ^ g.toNat)
  have hhigh := Nat.lt_mul_of_div_lt
    (Nat.lt_succ_self (Binary64.units r * 10 ^ (-g).toNat / (unitsOfOne * 10 ^ g.toNat))) hden
  rw [← hfloor] at hlow hhigh
  have hlowQ : (gridFloor r g : ℚ) * (unitsOfOne * 10 ^ g.toNat) ≤
      Binary64.units r * 10 ^ (-g).toNat := by exact_mod_cast hlow
  have hhighQ : (Binary64.units r : ℚ) * 10 ^ (-g).toNat <
      (gridFloor r g + 1) * (unitsOfOne * 10 ^ g.toNat) := by exact_mod_cast hhigh
  have hshift : (0 : ℚ) < 10 ^ (-g).toNat := by positivity
  rw [← ten_zpow_mul g] at hlowQ hhighQ
  unfold Decimal.units
  push_cast
  constructor
  · rw [← mul_le_mul_iff_of_pos_right hshift]
    linarith
  · rw [← mul_lt_mul_iff_of_pos_right hshift]
    linarith

/-- The one of two neighbours that is taken reads back. -/
theorem nearer?_eq_some {tie : Tie} {n : ℕ} {low high : Bool} {halfway : Ordering} {d : Decimal}
    (h : nearer? tie n g low high halfway = some d) :
    d = ⟨n, g⟩ ∧ low = true ∨ d = ⟨n + 1, g⟩ ∧ high = true := by
  unfold nearer? at h
  cases low <;> cases high
  case false.false => cases h
  case false.true => exact Or.inr ⟨(Option.some.inj h).symm, rfl⟩
  case true.false => exact Or.inl ⟨(Option.some.inj h).symm, rfl⟩
  case true.true =>
    cases halfway
    case gt => exact Or.inl ⟨(Option.some.inj h).symm, rfl⟩
    case lt => exact Or.inr ⟨(Option.some.inj h).symm, rfl⟩
    case eq =>
      dsimp only at h
      split at h
      · exact Or.inr ⟨(Option.some.inj h).symm, rfl⟩
      · exact Or.inl ⟨(Option.some.inj h).symm, rfl⟩

/-- One of two neighbours is taken if one of them reads back. -/
theorem nearer?_isSome {tie : Tie} {n : ℕ} {low high : Bool} {halfway : Ordering}
    (h : low = true ∨ high = true) : (nearer? tie n g low high halfway).isSome = true := by
  unfold nearer?
  cases low <;> cases high
  case false.false => simp at h
  case false.true => rfl
  case true.false => rfl
  case true.true =>
    cases halfway
    case gt => rfl
    case lt => rfl
    case eq =>
      dsimp only
      split <;> rfl

/-- What is found on a grid is a neighbour of the number, and rounds to it. -/
theorem onGrid?_eq_some {tie : Tie} {d : Decimal} (h : onGrid? tie r g = some d) :
    (d = ⟨gridFloor r g, g⟩ ∨ d = ⟨gridFloor r g + 1, g⟩) ∧ Nearest r d.units := by
  rw [← readsBack_iff]
  unfold onGrid? at h
  rcases nearer?_eq_some h with ⟨rfl, hlow⟩ | ⟨rfl, hhigh⟩
  · exact ⟨Or.inl rfl, hlow⟩
  · exact ⟨Or.inr rfl, hhigh⟩

/-- Something is found on a grid if one of the neighbours rounds to the number. -/
theorem onGrid?_isSome {tie : Tie}
    (h : Nearest r (⟨gridFloor r g, g⟩ : Decimal).units ∨
      Nearest r (⟨gridFloor r g + 1, g⟩ : Decimal).units) :
    (onGrid? tie r g).isSome = true := by
  rw [← readsBack_iff, ← readsBack_iff] at h
  unfold onGrid?
  exact nearer?_isSome h

end grid

/-! ## Section 4: Seventeen digits -/

/-- The numbers next to a number are more than two steps apart, on a grid of sixteen digits
behind the leading one. -/
theorem gap_lt (r : ℕ) :
    2 * (Binary64.units r : ℚ) < 10 ^ 16 * (Binary64.units (r + 1) - Binary64.units (r - 1)) := by
  obtain ⟨q, s, hr, hs, hq⟩ := exists_significand r
  have hpow : (0 : ℚ) < 2 ^ q := by positivity
  have hunits : (Binary64.units r : ℚ) = s * 2 ^ q := by
    rw [hr, units_eq (by omega) hq, Nat.cast_mul, Nat.cast_pow, Nat.cast_ofNat]
  have hnext : (Binary64.units (r + 1) : ℚ) = (s + 1) * 2 ^ q := by
    rw [hr, Nat.add_assoc, units_eq (by omega) (by omega), Nat.cast_mul, Nat.cast_pow,
      Nat.cast_ofNat, Nat.cast_succ]
  rw [hunits, hnext]
  by_cases hsmall : s ≤ 2 ^ 52
  · -- the number above is far enough away
    have hbelow : (Binary64.units (r - 1) : ℚ) ≤ s * 2 ^ q := by
      rw [← hunits]
      exact units_le_cast (Nat.sub_le r 1)
    have hsQ : (s : ℚ) ≤ 2 ^ 52 := by exact_mod_cast hsmall
    nlinarith
  · -- both are one unit of the last place away
    have hbelow : (Binary64.units (r - 1) : ℚ) = (s - 1) * 2 ^ q := by
      rw [hr, Nat.add_sub_assoc (by omega), units_eq (by omega) (Or.inr (by omega)),
        Nat.cast_mul, Nat.cast_pow, Nat.cast_ofNat, Nat.cast_pred (by omega)]
    have hsQ : (s : ℚ) < 2 ^ 53 := by exact_mod_cast hs
    rw [hbelow]
    nlinarith

/-- **Seventeen digits are enough**: one of the neighbours on their grid rounds to the
number. -/
theorem seventeen_digits (tie : Tie) {r : ℕ} (hr : 0 < r) :
    (onGrid? tie r (scale r - 17)).isSome = true := by
  obtain ⟨hlow, hhigh⟩ := gridFloor_spec r (scale r - 17)
  obtain ⟨hscale, -⟩ := scale_spec hr
  have hgap := gap_lt r
  apply onGrid?_isSome
  by_contra hnone
  rw [not_or] at hnone
  -- a neighbour that does not round to the number is beyond the point halfway to the next one
  have hfarLow := mt (fun h => ⟨Or.inl h, notAbove_of_le hlow⟩) hnone.1
  have hfarHigh := mt (fun h => ⟨notBelow_of_le hhigh.le, Or.inl h⟩) hnone.2
  rw [not_lt] at hfarLow hfarHigh
  have hstep : (10 : ℚ) ^ (scale r - 17) * 10 ^ 16 = 10 ^ (scale r - 1) := by
    rw [← zpow_natCast, ← zpow_add₀ (by norm_num)]
    congr 1
    omega
  unfold Decimal.units at hfarLow hfarHigh
  push_cast at hfarLow hfarHigh
  rw [← hstep] at hscale
  nlinarith

/-! ## Section 5: The shortest decimal -/

/-- What is known of a decimal that stands for a number. -/
structure StandsFor (d : Decimal) (r : ℕ) : Prop where
  digits_pos : 0 < d.digits
  digits_le : d.digits ≤ 10 ^ 17
  nearest : Nearest r d.units
  exponent_ge : scale r - 17 ≤ d.exponent
  exponent_le : d.exponent ≤ scale r + 18

theorem stripZeros_spec {d : Decimal} (hd : 0 < d.digits) :
    0 < (stripZeros d).digits ∧ (stripZeros d).digits ≤ d.digits ∧
      (stripZeros d).units = d.units ∧ d.exponent ≤ (stripZeros d).exponent ∧
      (stripZeros d).exponent ≤ d.exponent + (Digits.toDigits d.digits).length := by
  obtain ⟨m, hm⟩ := Digits.exists_mul_pow_zeros d.digits
  have hlength := ((Digits.toDigits d.digits).reverse.takeWhile_sublist (· = '0')).length_le
  rw [List.length_reverse] at hlength
  unfold stripZeros
  dsimp only
  generalize ((Digits.toDigits d.digits).reverse.takeWhile (· = '0')).length = zeros at hm hlength ⊢
  have hpow : Nat.pow 10 zeros = 10 ^ zeros := rfl
  have hpos : 0 < 10 ^ zeros := by positivity
  have hdiv : d.digits / 10 ^ zeros = m := by rw [hm, Nat.mul_div_cancel _ hpos]
  have hmpos : 0 < m := by
    rw [Nat.pos_iff_ne_zero]
    rintro rfl
    omega
  rw [hpow, hdiv]
  refine ⟨hmpos, ?_, ?_, by omega, by omega⟩
  · calc m ≤ m * 10 ^ zeros := Nat.le_mul_of_pos_right m hpos
      _ = d.digits := hm.symm
  · unfold Decimal.units
    rw [hm, zpow_add₀ (by norm_num), zpow_natCast]
    push_cast
    ring

/-- The digits on a grid are as many as its step says. -/
theorem gridFloor_bounds {r k : ℕ} (hr : 0 < r) (hk : 0 < k) :
    0 < gridFloor r (scale r - k) ∧ gridFloor r (scale r - k) < 10 ^ k := by
  obtain ⟨hlow, hhigh⟩ := gridFloor_spec r (scale r - k)
  obtain ⟨hfirst, hlast⟩ := scale_spec hr
  have hone := unitsOfOne_posQ
  have hstep : (0 : ℚ) < 10 ^ (scale r - k) := by positivity
  unfold Decimal.units at hlow hhigh
  push_cast at hhigh
  constructor
  · -- otherwise the number would be below its leading digit
    by_contra hzero
    rw [Nat.eq_zero_of_not_pos hzero] at hhigh
    have hmono : (10 : ℚ) ^ (scale r - k) ≤ 10 ^ (scale r - 1) :=
      zpow_le_zpow_right₀ (by norm_num) (by omega)
    have hmul := mul_le_mul_of_nonneg_right hmono hone.le
    push_cast at hhigh
    linarith
  · have htop : (10 : ℚ) ^ (scale r - k) * 10 ^ k = 10 ^ scale r := by
      rw [← zpow_natCast, ← zpow_add₀ (by norm_num)]
      congr 1
      omega
    have hlt : (gridFloor r (scale r - k) : ℚ) * (10 ^ (scale r - k) * unitsOfOne) <
        10 ^ k * (10 ^ (scale r - k) * unitsOfOne) := by
      rw [← htop] at hlast
      linarith
    have hltQ := lt_of_mul_lt_mul_right hlt (mul_pos hstep hone).le
    exact_mod_cast hltQ

/-- **The shortest decimal** has at most seventeen digits and rounds to its number. -/
theorem ofRank_spec (tie : Tie) {r : ℕ} (hr : 0 < r) : StandsFor (ofRank tie r) r := by
  obtain ⟨found, hfound⟩ : ∃ found, found =
      (List.range 17).findSome? fun (n : ℕ) => onGrid? tie r (scale r - (n + 1)) := ⟨_, rfl⟩
  have hsome : found.isSome = true := by
    rw [hfound, List.findSome?_isSome_iff]
    exact ⟨16, by decide, seventeen_digits tie hr⟩
  obtain ⟨d, hd⟩ := Option.isSome_iff_exists.mp hsome
  obtain ⟨n, hn, hgrid⟩ := List.exists_of_findSome?_eq_some (hfound.symm.trans hd)
  rw [List.mem_range] at hn
  obtain ⟨hdigits, hnearest⟩ := onGrid?_eq_some hgrid
  have hbounds := gridFloor_bounds (k := n + 1) hr (Nat.succ_pos n)
  rw [Nat.cast_succ] at hbounds
  have hexponent : d.exponent = scale r - (n + 1) :=
    hdigits.elim (congrArg Decimal.exponent) (congrArg Decimal.exponent)
  have hneighbour := hdigits.imp (congrArg Decimal.digits) (congrArg Decimal.digits)
  dsimp only at hneighbour
  generalize gridFloor r (scale r - (n + 1)) = m at hbounds hneighbour
  have hpos : 0 < d.digits := by omega
  have hle : d.digits ≤ 10 ^ (n + 1) := by omega
  have hmost : 10 ^ (n + 1) ≤ 10 ^ 17 := Nat.pow_le_pow_right (by decide) (by omega)
  have hlength : (Digits.toDigits d.digits).length ≤ n + 2 :=
    Digits.length_toDigits_le (by omega)
      (hle.trans_lt (Nat.pow_lt_pow_right (by decide) (Nat.lt_succ_self _)))
  obtain ⟨hstripped, hshorter, hunits, hge, hlast⟩ := stripZeros_spec hpos
  have hshortest : ofRank tie r = stripZeros d := by
    unfold ofRank
    dsimp only
    rw [← hfound, hd, Option.getD_some]
  rw [hshortest]
  exact
    { digits_pos := hstripped
      digits_le := by omega
      nearest := by rwa [hunits]
      exponent_ge := by omega
      exponent_le := by omega }

end Shortest

end PropertyFilter
