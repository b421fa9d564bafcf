import Mathlib.Algebra.Order.Field.Basic
import Mathlib.Data.Rat.Cast.Order
import Mathlib.Tactic.Linarith
import Mathlib.Tactic.Ring
import PropertyFilter.Number.Decimal

/-!
  # Rounding

  Magnitudes are counted in units of `2^-1074`. Those that round to rank `r` lie between the
  points halfway to its neighbours, and at the points themselves the even rank wins:

      units (r - 1)        units r        units (r + 1)
            |-------·---------|---------·-------|
                    └── these round to r ──┘

  So rounding is monotone (`Nearest.mono`), it depends on the magnitude alone
  (`nearest_eq_iff`), and a number of the format is its own rounding.
-/

namespace PropertyFilter.Binary64

/-! ## Section 1: Ranks and units -/

/-- The units that one is made of. -/
@[irreducible] def unitsOfOne : ℕ := Nat.pow 2 1074

theorem unitsOfOne_eq : Nat.pow 2 1074 = unitsOfOne := by
  unfold unitsOfOne
  with_reducible rfl

/-- The exponent has a name here, so that nothing tries to write the power down. -/
theorem exists_unitsOfOne_eq : ∃ k, k = 1074 ∧ Nat.pow 2 k = unitsOfOne :=
  ⟨1074, rfl, unitsOfOne_eq⟩

theorem unitsOfOne_pos : 0 < unitsOfOne := by
  obtain ⟨k, -, hone⟩ := exists_unitsOfOne_eq
  rw [← hone]
  exact Nat.two_pow_pos k

theorem pow_add_unitsOfOne (q : ℕ) : 2 ^ (q + 1074) = 2 ^ q * unitsOfOne := by
  obtain ⟨k, hk, hone⟩ := exists_unitsOfOne_eq
  rw [← hk, ← hone]
  exact Nat.pow_add 2 q k

theorem unitsOfOne_mul_self : unitsOfOne * unitsOfOne = Nat.pow 2 2148 := by
  obtain ⟨k, hk, hone⟩ := exists_unitsOfOne_eq
  rw [← hone, show 2148 = k + k by omega]
  exact (Nat.pow_add 2 k k).symm

section ranks
variable {q s : ℕ}

/-- A rank is a significand and the number of doublings behind it. Below `2^52` there are
none; a significand of `2^53` is the first one of the next doubling. -/
theorem units_eq (hs : s ≤ 2 ^ 53) (hq : q = 0 ∨ 2 ^ 52 ≤ s) :
    units (q * 2 ^ 52 + s) = s * 2 ^ q := by
  have hpow : Nat.pow 2 52 = 2 ^ 52 := rfl
  unfold units
  rw [hpow]
  by_cases hsmall : s < 2 ^ 52
  · obtain rfl : q = 0 := by omega
    rw [if_pos (by omega)]
    omega
  by_cases hlast : s < 2 ^ 53
  · have hdiv : (q * 2 ^ 52 + s) / 2 ^ 52 = q + 1 := by omega
    have hmod : (q * 2 ^ 52 + s) % 2 ^ 52 = s - 2 ^ 52 := by omega
    rw [if_neg (by omega), hdiv, hmod, Nat.add_sub_cancel, Nat.add_sub_of_le (by omega)]
    rfl
  · have hdiv : (q * 2 ^ 52 + s) / 2 ^ 52 = q + 2 := by omega
    have hmod : (q * 2 ^ 52 + s) % 2 ^ 52 = 0 := by omega
    obtain rfl : s = 2 ^ 52 * 2 := by omega
    rw [if_neg (by omega), hdiv, hmod, Nat.mul_assoc, ← Nat.pow_succ']
    rfl

/-- Every rank has a significand below `2^53`. -/
theorem exists_significand (r : ℕ) :
    ∃ q s, r = q * 2 ^ 52 + s ∧ s < 2 ^ 53 ∧ (q = 0 ∨ 2 ^ 52 ≤ s) := by
  by_cases h : r < 2 ^ 53
  · exact ⟨0, r, by omega, h, Or.inl rfl⟩
  · exact ⟨r / 2 ^ 52 - 1, r % 2 ^ 52 + 2 ^ 52, by omega, by omega, Or.inr (by omega)⟩

end ranks

theorem units_lt_succ (r : ℕ) : units r < units (r + 1) := by
  obtain ⟨q, s, rfl, hs, hq⟩ := exists_significand r
  rw [units_eq (by omega) hq, Nat.add_assoc, units_eq (by omega) (by omega)]
  exact Nat.mul_lt_mul_of_pos_right (Nat.lt_succ_self s) (Nat.two_pow_pos q)

theorem units_strictMono : StrictMono units := strictMono_nat_of_lt_succ units_lt_succ

/-- A whole number of at most 53 bits has a rank, however often it is doubled. -/
theorem exists_units_eq (q : ℕ) {m : ℕ} (hm : m ≤ 2 ^ 53) : ∃ r, units r = m * 2 ^ q := by
  induction q generalizing m with
  | zero => exact ⟨m, by simpa using units_eq (q := 0) hm (Or.inl rfl)⟩
  | succ q ih =>
    by_cases hbig : 2 ^ 52 ≤ m
    · exact ⟨_, units_eq hm (Or.inr hbig)⟩
    · obtain ⟨r, hr⟩ := ih (m := m * 2) (by omega)
      exact ⟨r, by rw [hr, Nat.pow_succ', Nat.mul_assoc]⟩

/-- The rank that is found does not exceed the number of units, and the next one does. -/
theorem floorRank_spec (u : ℕ) : units (floorRank u) ≤ u ∧ u < units (floorRank u + 1) := by
  have hpow : Nat.pow 2 53 = 2 ^ 53 := rfl
  unfold floorRank
  rw [hpow]
  split
  · next hsmall =>
    have hself : units u = u := by simpa using units_eq (q := 0) (s := u) (by omega) (Or.inl rfl)
    have hnext : units (u + 1) = u + 1 := by
      simpa using units_eq (q := 0) (s := u + 1) (by omega) (Or.inl rfl)
    omega
  · next hbig =>
    have hne : u ≠ 0 := by omega
    have hlog : 53 ≤ u.log2 := (Nat.le_log2 hne).mpr (by omega)
    obtain ⟨e, he⟩ := Nat.exists_eq_add_of_le' (show 52 ≤ u.log2 by omega)
    dsimp only
    rw [he, Nat.add_sub_cancel]
    have hpos : 0 < 2 ^ e := Nat.two_pow_pos e
    -- the significand has 53 bits
    have hlow : 2 ^ 52 ≤ u / 2 ^ e := by
      rw [Nat.le_div_iff_mul_le hpos, ← Nat.pow_add, Nat.add_comm, ← he]
      exact Nat.log2_self_le hne
    have hhigh : u / 2 ^ e < 2 ^ 53 := by
      rw [Nat.div_lt_iff_lt_mul hpos, ← Nat.pow_add, Nat.add_comm, show e + 53 = u.log2 + 1 by omega]
      exact Nat.lt_log2_self
    show units (e * 2 ^ 52 + u / 2 ^ e) ≤ u ∧ u < units (e * 2 ^ 52 + u / 2 ^ e + 1)
    rw [Nat.add_assoc, units_eq (by omega) (Or.inr hlow), units_eq (by omega) (Or.inr (by omega))]
    exact ⟨Nat.div_mul_le_self u _, Nat.lt_mul_of_div_lt (Nat.lt_succ_self _) hpos⟩

/-! ## Section 2: What rounds to a rank -/

/-- Not nearer to the rank below, the point halfway there being of the even rank. -/
def NotBelow (r : ℕ) (x : ℚ) : Prop :=
  (units (r - 1) + units r : ℚ) < 2 * x ∨ (units (r - 1) + units r : ℚ) = 2 * x ∧ r % 2 = 0

/-- Not nearer to the rank above, the point halfway there being of the even rank. -/
def NotAbove (r : ℕ) (x : ℚ) : Prop :=
  2 * x < (units r + units (r + 1) : ℚ) ∨ 2 * x = (units r + units (r + 1) : ℚ) ∧ r % 2 = 0

/-- A magnitude, in units, that rounds to a rank. -/
structure Nearest (r : ℕ) (x : ℚ) : Prop where
  notBelow : NotBelow r x
  notAbove : NotAbove r x

section nearest
variable {r s : ℕ} {x y : ℚ}

theorem units_le_cast (h : r ≤ s) : (units r : ℚ) ≤ units s := by
  exact_mod_cast units_strictMono.monotone h

theorem notBelow_of_le (h : (units r : ℚ) ≤ x) : NotBelow r x := by
  by_cases hr : r = 0
  · subst hr
    have hzero : (units 0 : ℚ) = 0 := by simp [units]
    rw [hzero] at h
    rcases h.eq_or_lt with rfl | hpos
    · exact Or.inr ⟨by simp [hzero], rfl⟩
    · exact Or.inl (by simp [hzero, hpos])
  · have hlt : (units (r - 1) : ℚ) < units r := by
      exact_mod_cast units_strictMono (show r - 1 < r by omega)
    exact Or.inl (by linarith)

theorem notAbove_of_le (h : x ≤ units r) : NotAbove r x := by
  have hlt : (units r : ℚ) < units (r + 1) := by exact_mod_cast units_lt_succ r
  exact Or.inl (by linarith)

/-- **Rounding is monotone.** -/
theorem Nearest.mono (hr : Nearest r x) (hs : Nearest s y) (h : x ≤ y) : r ≤ s := by
  by_contra hlt
  have hlow : (units s : ℚ) ≤ units (r - 1) := units_le_cast (by omega)
  have hhigh : (units (s + 1) : ℚ) ≤ units r := units_le_cast (by omega)
  -- both lie at the point halfway between two neighbours, and only one of these is even
  rcases hr.notBelow with hx | ⟨hx, hr⟩
  · rcases hs.notAbove with hy | ⟨hy, -⟩ <;> linarith
  · rcases hs.notAbove with hy | ⟨hy, hs⟩
    · linarith
    · have hunits : (units (s + 1) : ℚ) = units r := by linarith
      have heq : s + 1 = r := units_strictMono.injective (by exact_mod_cast hunits)
      omega

theorem Nearest.unique (hr : Nearest r x) (hs : Nearest s x) : r = s :=
  le_antisymm (hr.mono hs le_rfl) (hs.mono hr le_rfl)

theorem nearest_units (r : ℕ) : Nearest r (units r) := ⟨notBelow_of_le le_rfl, notAbove_of_le le_rfl⟩

end nearest

/-! ## Section 3: Fractions -/

/-- A fraction in units. -/
def fractionUnits (num den : ℕ) : ℚ := (num * unitsOfOne : ℕ) / den

/-- The rank nearest to a fraction of units. -/
def nearestUnits (scaled den : ℕ) : ℕ :=
  let r := floorRank (scaled / den)
  match compare (2 * scaled) ((units r + units (r + 1)) * den) with
  | .lt => r
  | .gt => r + 1
  | .eq => if r % 2 = 0 then r else r + 1

theorem nearest_eq (num den : ℕ) : nearest num den = nearestUnits (num * unitsOfOne) den := by
  rewrite [← unitsOfOne_eq]
  rfl

section fractions
variable {num den num' den' r : ℕ}

theorem nearestUnits_spec (scaled : ℕ) (hden : 0 < den) :
    Nearest (nearestUnits scaled den) (scaled / den) := by
  have hdenQ : (0 : ℚ) < den := by exact_mod_cast hden
  unfold nearestUnits
  dsimp only
  obtain ⟨hlow, hhigh⟩ := floorRank_spec (scaled / den)
  generalize floorRank (scaled / den) = r at hlow hhigh ⊢
  -- the number of units lies between two neighbours
  have hr : (units r : ℚ) ≤ scaled / den := by
    rw [le_div_iff₀ hdenQ]
    exact_mod_cast (Nat.le_div_iff_mul_le hden).mp hlow
  have hnext : (scaled / den : ℚ) < units (r + 1) := by
    rw [div_lt_iff₀ hdenQ]
    exact_mod_cast (Nat.div_lt_iff_lt_mul hden).mp hhigh
  have htwice (z : ℚ) : 2 * (scaled / den : ℚ) < z ↔ (2 * scaled : ℚ) < z * den := by
    rw [← mul_div_assoc, div_lt_iff₀ hdenQ]
  have htwice' (z : ℚ) : 2 * (scaled / den : ℚ) = z ↔ (2 * scaled : ℚ) = z * den := by
    rw [← mul_div_assoc, div_eq_iff hdenQ.ne']
  split
  · next hlt =>
    have hlt := Nat.compare_eq_lt.mp hlt
    exact ⟨notBelow_of_le hr, Or.inl ((htwice _).mpr (by exact_mod_cast hlt))⟩
  · next hgt =>
    have hgt := Nat.compare_eq_gt.mp hgt
    refine ⟨Or.inl ?_, notAbove_of_le hnext.le⟩
    rw [Nat.add_sub_cancel, ← mul_div_assoc, lt_div_iff₀ hdenQ]
    exact_mod_cast hgt
  · next heq =>
    have heq := Nat.compare_eq_eq.mp heq
    have hhalf : 2 * (scaled / den : ℚ) = units r + units (r + 1) :=
      (htwice' _).mpr (by exact_mod_cast heq)
    split_ifs with heven
    · exact ⟨notBelow_of_le hr, Or.inr ⟨hhalf, heven⟩⟩
    · refine ⟨Or.inr ⟨?_, by omega⟩, notAbove_of_le hnext.le⟩
      rw [Nat.add_sub_cancel, hhalf]

/-- What is found rounds to the fraction. -/
theorem nearest_spec (num : ℕ) (hden : 0 < den) :
    Nearest (nearest num den) (fractionUnits num den) := by
  rw [nearest_eq]
  exact nearestUnits_spec _ hden

theorem nearest_eq_iff (hden : 0 < den) :
    nearest num den = r ↔ Nearest r (fractionUnits num den) := by
  constructor
  · rintro rfl
    exact nearest_spec num hden
  · exact (nearest_spec num hden).unique

theorem nearest_mono (hden : 0 < den) (hden' : 0 < den') (h : num * den' ≤ num' * den) :
    nearest num den ≤ nearest num' den' := by
  apply (nearest_spec num hden).mono (nearest_spec num' hden')
  have hdenQ : (0 : ℚ) < den := by exact_mod_cast hden
  have hdenQ' : (0 : ℚ) < den' := by exact_mod_cast hden'
  unfold fractionUnits
  rw [div_le_div_iff₀ hdenQ hdenQ']
  have hscaled := Nat.mul_le_mul_right unitsOfOne h
  have hcross : num * unitsOfOne * den' ≤ num' * unitsOfOne * den := by
    rw [Nat.mul_right_comm, Nat.mul_right_comm num']
    exact hscaled
  exact_mod_cast hcross

/-- Rounding looks at the value of a fraction alone. -/
theorem nearest_congr (hden : 0 < den) (hden' : 0 < den') (h : num * den' = num' * den) :
    nearest num den = nearest num' den' :=
  le_antisymm (nearest_mono hden hden' h.le) (nearest_mono hden' hden h.ge)

/-- A number of the format is its own rounding. -/
theorem nearest_of_units (hden : 0 < den) (h : num * unitsOfOne = units r * den) :
    nearest num den = r := by
  rw [nearest_eq_iff hden]
  have hvalue : fractionUnits num den = units r := by
    have hdenQ : (den : ℚ) ≠ 0 := by exact_mod_cast hden.ne'
    unfold fractionUnits
    rw [h, Nat.cast_mul, mul_div_cancel_right₀ _ hdenQ]
  rw [hvalue]
  exact nearest_units r

/-- A fraction that does not exceed a number of the format does not round beyond it. -/
theorem nearest_le (hden : 0 < den) (h : num * unitsOfOne ≤ units r * den) :
    nearest num den ≤ r := by
  refine (nearest_spec num hden).mono (nearest_units r) ?_
  have hdenQ : (0 : ℚ) < den := by exact_mod_cast hden
  unfold fractionUnits
  rw [div_le_iff₀ hdenQ]
  exact_mod_cast h

end fractions

/-! ## Section 4: Whole numbers and powers of ten -/

section whole
variable {n e r s : ℕ}

/-- A whole number that has a rank, in units. -/
theorem units_nearest_one (h : units r = n * unitsOfOne) : units (nearest n 1) = n * unitsOfOne := by
  rw [nearest_of_units one_pos (r := r) (by rw [h, Nat.mul_one]), h]

theorem exists_units_eq_ofOne (q : ℕ) {m : ℕ} (hm : m ≤ 2 ^ 53) :
    ∃ r, units r = m * 2 ^ q * unitsOfOne := by
  obtain ⟨r, hr⟩ := exists_units_eq (q + 1074) hm
  refine ⟨r, ?_⟩
  rw [hr, pow_add_unitsOfOne, ← Nat.mul_assoc]

/-- A whole number of at most 53 bits is a number of the format. -/
theorem units_nearest_of_le (hn : n ≤ 2 ^ 53) : units (nearest n 1) = n * unitsOfOne := by
  obtain ⟨r, hr⟩ := exists_units_eq_ofOne 0 hn
  exact units_nearest_one (r := r) (by simpa using hr)

/-- The powers of ten up to the twenty-second are numbers of the format. -/
theorem units_tenRank (he : e ≤ 22) : units (tenRank e) = 10 ^ e * unitsOfOne := by
  have hfive : 5 ^ e ≤ 2 ^ 53 :=
    (Nat.pow_le_pow_right (by decide) he).trans (by decide)
  obtain ⟨r, hr⟩ := exists_units_eq_ofOne e hfive
  rw [← Nat.mul_pow] at hr
  exact units_nearest_one (r := r) hr

/-- The product of two whole numbers is rounded once. -/
theorem mulRank_eq (hr : units r = n * unitsOfOne) (hs : units s = e * unitsOfOne) :
    mulRank r s = nearest (n * e) 1 := by
  have hpos := unitsOfOne_pos
  unfold mulRank
  rw [hr, hs, ← unitsOfOne_mul_self]
  exact nearest_congr (Nat.mul_pos hpos hpos) one_pos (by ring)

/-- The quotient of two whole numbers is rounded once. -/
theorem divRank_eq (hr : units r = n * unitsOfOne) (hs : units s = e * unitsOfOne) (he : 0 < e) :
    divRank r s = nearest n e := by
  unfold divRank
  rw [hr, hs]
  exact nearest_congr (Nat.mul_pos he unitsOfOne_pos) he (by ring)

end whole

end PropertyFilter.Binary64
