import PropertyFilter.Proofs.Json.Scalar
import PropertyFilter.Proofs.Json.Scaling

/-!
  # Reading what is written: the values of numbers

  An integer is written as its digits and read as an integer. A floating point number is
  written with a point or an exponent:

      positional   0.00ddd    dd.ddd    ddd00.0
      otherwise    d.ddde-7

  and all of its digits are taken in, so that it is read as the decimal that it shows, scaled
  in steps.

  Main statements: `readNumber_int` and `readNumber_float`. A finite number is always read as
  a finite number (`exists_rereadRank?`), and as itself where the steps are exact
  (`rereadRank?_of_short`).
-/

namespace PropertyFilter.Json

open Digits Binary64

/-! ## Section 1: Taking digits in -/

/-- All digits are taken in as long as their number stays below the limit. -/
theorem gather_eq {limit n : ℕ} {ds : List Char} (h : n * 10 ^ ds.length + ofDigits ds ≤ limit) :
    gather limit n ds = (n * 10 ^ ds.length + ofDigits ds, []) := by
  induction ds generalizing n with
  | nil => simp [gather, ofDigits]
  | cons d ds ih =>
    have hcons : ofDigits (d :: ds) = ofDigits [d] * 10 ^ ds.length + ofDigits ds :=
      ofDigits_append [d] ds
    have hvalue : n * 10 ^ (d :: ds).length + ofDigits (d :: ds) =
        (10 * n + ofDigits [d]) * 10 ^ ds.length + ofDigits ds := by
      rw [hcons, List.length_cons]
      ring
    rw [hvalue] at h ⊢
    -- what has been taken in so far is no larger than the whole
    have hnext : 10 * n + ofDigits [d] ≤ limit :=
      ((Nat.le_mul_of_pos_right _ (by positivity)).trans (Nat.le_add_right _ _)).trans h
    rw [gather, if_pos hnext, ih h]

namespace NumberText

variable {t : NumberText}

/-- The digits of a number without its point. -/
def digits (t : NumberText) : List Char := t.whole ++ t.fraction.getD []

theorem significand_eq (h : ofDigits t.digits ≤ maxInt.toNat) :
    t.significand = (ofDigits t.digits, -((t.fraction.getD []).length : ℤ)) := by
  unfold NumberText.digits at *
  rw [ofDigits_append] at h ⊢
  have hwhole : gather maxInt.toNat 0 t.whole = (ofDigits t.whole, []) := by
    have hle : 0 * 10 ^ t.whole.length + ofDigits t.whole ≤ maxInt.toNat := by
      rw [Nat.zero_mul, Nat.zero_add]
      exact ((Nat.le_mul_of_pos_right _ (by positivity)).trans (Nat.le_add_right _ _)).trans h
    rw [gather_eq hle, Nat.zero_mul, Nat.zero_add]
  unfold significand
  rw [hwhole]
  dsimp only
  rw [gather_eq h]
  simp

/-- The exponent that is written. -/
def exponentValue (t : NumberText) : ℤ :=
  let (negative, digits) := t.exponent.getD (false, [])
  if negative then -(ofDigits digits : ℤ) else ofDigits digits

/-- A number is scaled by what its point and its exponent make of it. -/
theorem rank_eq (hdigits : ofDigits t.digits ≤ maxInt.toNat)
    (hexponent : ofDigits (t.exponent.getD (false, [])).2 ≤ largestExponent) :
    t.rank = match scaled? (ofDigits t.digits)
        (t.exponentValue - (t.fraction.getD []).length) with
      | some r => .ok r
      | none => .error 0 := by
  unfold rank exponentValue
  rw [significand_eq hdigits]
  dsimp only
  generalize t.exponent.getD (false, []) = e at hexponent ⊢
  have hgather : gather largestExponent 0 e.2 = (ofDigits e.2, []) := by
    have hle : 0 * 10 ^ e.2.length + ofDigits e.2 ≤ largestExponent := by
      rwa [Nat.zero_mul, Nat.zero_add]
    rw [gather_eq hle, Nat.zero_mul, Nat.zero_add]
  rw [hgather]
  dsimp only
  have hsum : (if e.1 = true then -((t.fraction.getD []).length : ℤ) - (ofDigits e.2 : ℕ)
      else -((t.fraction.getD []).length : ℤ) + (ofDigits e.2 : ℕ)) =
      (if e.1 = true then -(ofDigits e.2 : ℤ) else ofDigits e.2) - (t.fraction.getD []).length := by
    split <;> ring
  rewrite [hsum]
  rfl

/-- What is not written as an integer has the value of its rank. -/
theorem value_fractional (h : (t.fraction.isSome || t.exponent.isSome) = true) :
    t.value = t.rank.map fun r => .float (.ofRank t.negative r) := by
  have hint : t.toInt? = none := by
    unfold toInt?
    rw [if_pos h]
  unfold value
  rw [hint]

end NumberText

/-! ## Section 2: Integers -/

/-- An integer as a number of digits alone. -/
def intText (n : ℤ) : NumberText := { negative := n < 0, whole := toDigits n.natAbs }

theorem toDigits_no_zero (n : ℕ) : toDigits n = ['0'] ∨ (toDigits n).head? ≠ some '0' := by
  rcases Nat.eq_zero_or_pos n with rfl | hpos
  · exact Or.inl (Nat.toDigits_zero 10)
  · exact Or.inr (head?_toDigits hpos)

theorem intText_proper (n : ℤ) : (intText n).Proper where
  whole_run := isRun_toDigits _
  no_zero := toDigits_no_zero _
  fraction_run := by simp [intText]
  exponent_run := by simp [intText]

theorem ofInt_eq (n : ℤ) : Digits.ofInt n = String.ofList (intText n).chars := by
  unfold Digits.ofInt NumberText.chars NumberText.fractionChars NumberText.exponentChars intText
  by_cases hneg : n < 0
  · simp [hneg]
  · simp [hneg]

theorem intText_value {n : ℤ} (hlow : minInt ≤ n) (hhigh : n ≤ maxInt) :
    (intText n).value = .ok (.int n) := by
  unfold minInt at hlow
  have hint : (intText n).toInt? = some n := by
    unfold NumberText.toInt? intText
    simp only [Option.isSome_none, Bool.or_self, Bool.false_eq_true, if_false, ofDigits_toDigits]
    by_cases hneg : n < 0
    · have habs : -(n.natAbs : ℤ) = n := by omega
      rw [if_pos (by simpa using hneg), if_pos (by simp only [minInt, Bool.and_eq_true, decide_eq_true_eq]; omega), habs]
    · have habs : (n.natAbs : ℤ) = n := by omega
      rw [if_neg (by simpa using hneg), if_pos (by omega), habs]
  unfold NumberText.value
  rw [hint]

/-! ## Section 3: Decimals -/

/-- Digits with the point behind the first `point` of them, in parts. -/
def positionalParts (negative : Bool) (digits : List Char) (point : ℤ) : NumberText :=
  if point ≤ 0 then ⟨negative, ['0'], some (List.replicate (-point).toNat '0' ++ digits), none⟩
  else if digits.length ≤ point.toNat then
    ⟨negative, digits ++ List.replicate (point.toNat - digits.length) '0', some ['0'], none⟩
  else ⟨negative, digits.take point.toNat, some (digits.drop point.toNat), none⟩

/-- Digits with the point behind the first of them and an exponent, in parts. -/
def exponentParts (negative : Bool) (digits : List Char) (e : ℤ) : NumberText :=
  ⟨negative, digits.take 1, if (digits.drop 1).isEmpty then none else some (digits.drop 1),
    some (e < 0, toDigits e.natAbs)⟩

/-- A decimal in its parts, as it is written. -/
def decimalParts (negative : Bool) (d : Decimal) : NumberText :=
  let digits := toDigits d.digits
  let point := d.exponent + digits.length
  if Layout.json.positional (point - 1) then positionalParts negative digits point
  else exponentParts negative digits (point - 1)

section digits
variable {digits : List Char} {negative : Bool} {point e : ℤ}

theorem sign_toList (negative : Bool) :
    (Layout.sign negative).toList = if negative then ['-'] else [] := by
  cases negative <;> rfl

theorem positionalText_eq (negative : Bool) (digits : List Char) (point : ℤ) :
    Layout.sign negative ++ Layout.positionalText Layout.json.wholeEnding digits point =
      String.ofList (positionalParts negative digits point).chars := by
  have hending : Layout.json.wholeEnding.toList = ['.', '0'] := rfl
  have hlead : "0.".toList = ['0', '.'] := rfl
  rw [← String.toList_inj, String.toList_append, sign_toList, String.toList_ofList]
  unfold Layout.positionalText positionalParts NumberText.chars NumberText.fractionChars
    NumberText.exponentChars
  by_cases hpoint : point ≤ 0
  · rw [if_pos hpoint, if_pos hpoint]
    simp [hlead]
  · rw [if_neg hpoint, if_neg hpoint]
    by_cases hwhole : digits.length ≤ point.toNat
    · rw [if_pos hwhole, if_pos hwhole]
      simp [hending]
    · rw [if_neg hwhole, if_neg hwhole]
      simp

theorem exponentText_eq (negative : Bool) (digits : List Char) (e : ℤ) :
    Layout.sign negative ++ Layout.exponentText digits e =
      String.ofList (exponentParts negative digits e).chars := by
  rw [← String.toList_inj, String.toList_append, sign_toList, String.toList_ofList]
  unfold Layout.exponentText exponentParts NumberText.chars NumberText.fractionChars
    NumberText.exponentChars
  cases hrest : digits.drop 1 with
  | nil => simp
  | cons c cs => simp

theorem isRun_take (hrun : isRun digits = true) {k : ℕ} (hk : 0 < k) :
    isRun (digits.take k) = true := by
  obtain ⟨hne, hall⟩ := isRun_iff.mp hrun
  refine isRun_iff.mpr ⟨?_, fun c hc => hall c (List.mem_of_mem_take hc)⟩
  rw [Ne, List.take_eq_nil_iff]
  exact fun h => h.elim (by omega) hne

theorem isRun_drop (hrun : isRun digits = true) {k : ℕ} (hk : k < digits.length) :
    isRun (digits.drop k) = true := by
  refine isRun_iff.mpr ⟨?_, fun c hc => (isRun_iff.mp hrun).2 c (List.mem_of_mem_drop hc)⟩
  rw [Ne, List.drop_eq_nil_iff]
  omega

theorem head?_take (hhead : digits.head? ≠ some '0') {k : ℕ} (hk : 0 < k) :
    (digits.take k).head? ≠ some '0' := by
  rwa [List.head?_take, if_neg (by omega)]

theorem positionalParts_proper (hrun : isRun digits = true) (hhead : digits.head? ≠ some '0') :
    (positionalParts negative digits point).Proper := by
  obtain ⟨hne, hall⟩ := isRun_iff.mp hrun
  have hzeros (k : ℕ) : ∀ c ∈ List.replicate k '0', isDigit c = true := by
    intro c hc
    rw [List.eq_of_mem_replicate hc]
    decide
  unfold positionalParts
  split_ifs with hpoint hwhole
  · -- all digits are behind a zero and the point
    have hfraction : isRun (List.replicate (-point).toNat '0' ++ digits) = true :=
      isRun_append (by simp [hne]) (hzeros _) hall
    exact ⟨rfl, Or.inl rfl, by simpa using hfraction, by simp⟩
  · -- all digits are in front of the point
    have hrun : isRun (digits ++ List.replicate (point.toNat - digits.length) '0') = true :=
      isRun_append (by simp [hne]) hall (hzeros _)
    obtain ⟨c, cs, rfl⟩ := List.exists_cons_of_ne_nil hne
    have hzero : isRun ['0'] = true := rfl
    exact ⟨hrun, Or.inr hhead, by simpa using hzero, by simp⟩
  · -- the point is between the digits
    have hfraction : isRun (digits.drop point.toNat) = true := isRun_drop hrun (by omega)
    exact ⟨isRun_take hrun (by omega), Or.inr (head?_take hhead (by omega)),
      by simpa using hfraction, by simp⟩

theorem exponentParts_proper (hrun : isRun digits = true) (hhead : digits.head? ≠ some '0') :
    (exponentParts negative digits e).Proper := by
  refine ⟨isRun_take hrun one_pos, Or.inr (head?_take hhead one_pos), ?_,
    by simpa [exponentParts] using isRun_toDigits _⟩
  unfold exponentParts
  dsimp only
  split_ifs with hone
  · simp
  · rw [List.isEmpty_iff, List.drop_eq_nil_iff] at hone
    have hfraction : isRun (digits.drop 1) = true := isRun_drop hrun (by omega)
    simpa using hfraction

/-- The zeros around the digits: those in front of them have no value, those behind them are
factors of ten. -/
theorem positionalParts_shown (negative : Bool) (point : ℤ) (hlength : 0 < digits.length) :
    ofDigits (positionalParts negative digits point).digits =
      (if (digits.length : ℤ) ≤ point then
        ofDigits digits * 10 ^ ((point - digits.length).toNat + 1) else ofDigits digits) ∧
    (positionalParts negative digits point).exponentValue -
        (((positionalParts negative digits point).fraction.getD []).length : ℤ) =
      if (digits.length : ℤ) ≤ point then -1 else point - digits.length := by
  have hzero : ofDigits ['0'] = 0 := rfl
  unfold positionalParts NumberText.digits NumberText.exponentValue
  by_cases hpoint : point ≤ 0
  · have hzeros : ofDigits ('0' :: (List.replicate (-point).toNat '0' ++ digits)) =
        ofDigits digits := by
      rw [← List.cons_append, ← List.replicate_succ, ofDigits_append, ofDigits_zeros,
        Nat.zero_mul, Nat.zero_add]
    rw [if_pos hpoint, if_neg (by omega), if_neg (by omega)]
    refine ⟨hzeros, ?_⟩
    simp [ofDigits]
    omega
  · rw [if_neg hpoint]
    by_cases hwhole : digits.length ≤ point.toNat
    · have hzeros : point.toNat - digits.length = (point - digits.length).toNat := by omega
      rw [if_pos hwhole, if_pos (by omega), if_pos (by omega), hzeros]
      refine ⟨?_, by simp [ofDigits]⟩
      show ofDigits (digits ++ List.replicate _ '0' ++ ['0']) = _
      rw [ofDigits_append, ofDigits_append, ofDigits_zeros, hzero, List.length_replicate,
        Nat.add_zero, Nat.add_zero, Nat.mul_assoc, ← Nat.pow_add]
      rfl
    · rw [if_neg hwhole, if_neg (by omega), if_neg (by omega)]
      refine ⟨?_, ?_⟩
      · show ofDigits (digits.take _ ++ digits.drop _) = _
        rw [List.take_append_drop]
      · simp [ofDigits]
        omega

theorem exponentParts_shown (negative : Bool) (e : ℤ) (hlength : 0 < digits.length) :
    ofDigits (exponentParts negative digits e).digits = ofDigits digits ∧
      (exponentParts negative digits e).exponentValue -
        (((exponentParts negative digits e).fraction.getD []).length : ℤ) =
          e + 1 - digits.length := by
  obtain ⟨c, cs, rfl⟩ := List.exists_cons_of_length_pos hlength
  have hfraction : (exponentParts negative (c :: cs) e).fraction.getD [] = cs := by
    cases cs <;> rfl
  have hvalue : (exponentParts negative (c :: cs) e).exponentValue = e := by
    unfold exponentParts NumberText.exponentValue
    dsimp only [Option.getD_some]
    rw [ofDigits_toDigits]
    simp only [decide_eq_true_eq]
    split <;> omega
  constructor
  · unfold NumberText.digits
    rw [hfraction]
    rfl
  · rw [hfraction, hvalue, List.length_cons]
    push_cast
    ring

end digits

section decimals
variable {d : Decimal} {negative : Bool}

theorem decimalText_eq (negative : Bool) (d : Decimal) :
    Layout.sign negative ++ Layout.json.decimalText d =
      String.ofList (decimalParts negative d).chars := by
  unfold Layout.decimalText decimalParts
  dsimp only
  split_ifs
  · exact positionalText_eq negative _ _
  · exact exponentText_eq negative _ _

/-- A decimal is written without superfluous zeros. -/
theorem decimalParts_proper (negative : Bool) (hd : 0 < d.digits) :
    (decimalParts negative d).Proper := by
  have hrun := isRun_toDigits d.digits
  have hhead := head?_toDigits hd
  unfold decimalParts
  dsimp only
  split_ifs
  · exact positionalParts_proper hrun hhead
  · exact exponentParts_proper hrun hhead

/-- All digits that are written, and the exponent that goes with them, are those of the decimal
as it is shown. -/
theorem decimalParts_shown (negative : Bool) (d : Decimal) :
    ofDigits (decimalParts negative d).digits = (shown d).digits ∧
      (decimalParts negative d).exponentValue -
        (((decimalParts negative d).fraction.getD []).length : ℤ) = (shown d).exponent := by
  have hlength := length_toDigits_pos d.digits
  have hvalue : ofDigits (toDigits d.digits) = d.digits := ofDigits_toDigits d.digits
  have hpositional (e : ℤ) : Layout.json.positional e = true ↔ -5 ≤ e ∧ e < 16 := by
    show (decide (-5 ≤ e) && decide (e < 16)) = true ↔ _
    simp
  unfold decimalParts shown
  dsimp only
  generalize toDigits d.digits = digits at hlength hvalue ⊢
  by_cases hplace : -5 ≤ d.exponent + digits.length - 1 ∧ d.exponent + digits.length - 1 < 16
  · obtain ⟨hdigits, hexponent⟩ := positionalParts_shown negative
      (d.exponent + digits.length) hlength
    rw [if_pos ((hpositional _).mpr hplace), hdigits, hexponent, hvalue]
    by_cases hwhole : 0 ≤ d.exponent
    · rw [if_pos (by omega), if_pos (by omega), if_pos (by omega), Int.add_sub_cancel]
      exact ⟨rfl, rfl⟩
    · rw [if_neg (by omega), if_neg (by omega), if_neg (by omega), Int.add_sub_cancel]
      exact ⟨rfl, rfl⟩
  · obtain ⟨hdigits, hexponent⟩ := exponentParts_shown negative
      (d.exponent + digits.length - 1) hlength
    rw [if_neg (mt (hpositional _).mp hplace), hdigits, hexponent, hvalue, if_neg (by omega)]
    exact ⟨rfl, by ring⟩

theorem decimalParts_negative (negative : Bool) (d : Decimal) :
    (decimalParts negative d).negative = negative := by
  unfold decimalParts positionalParts exponentParts
  dsimp only
  split_ifs <;> rfl

/-- A decimal is never written as an integer. -/
theorem decimalParts_fractional (negative : Bool) (d : Decimal) :
    ((decimalParts negative d).fraction.isSome || (decimalParts negative d).exponent.isSome) =
      true := by
  unfold decimalParts positionalParts exponentParts
  dsimp only
  split_ifs <;> rfl

/-- The exponent that is written is that of the leading digit. -/
theorem decimalParts_exponent_le (negative : Bool) (d : Decimal) :
    ofDigits ((decimalParts negative d).exponent.getD (false, [])).2 ≤
      (d.exponent + (toDigits d.digits).length - 1).natAbs := by
  unfold decimalParts positionalParts exponentParts
  dsimp only
  split_ifs
  · exact Nat.zero_le _
  · exact Nat.zero_le _
  · exact Nat.zero_le _
  · exact (ofDigits_toDigits _).le
  · exact (ofDigits_toDigits _).le

end decimals

/-! ## Section 4: Floating point numbers -/

/-- A finite number in its parts, as it is written. -/
def floatText (negative : Bool) (r : ℕ) : NumberText :=
  if r = 0 then { negative, whole := ['0'], fraction := some ['0'] }
  else decimalParts negative (Shortest.ofRank .even r)

/-- The rank of the number that the text of rank `r` is read as. -/
def rereadRank? (r : ℕ) : Option ℕ :=
  if r = 0 then some 0
  else
    let d := shown (Shortest.ofRank .even r)
    scaled? d.digits d.exponent

/-- The text of a number shows few digits: at most 53 bits of them, and a power of ten within
the exact ones. -/
def Short (r : ℕ) : Prop :=
  r = 0 ∨
    (shown (Shortest.ofRank .even r)).digits ≤ 2 ^ 53 ∧
      -22 ≤ (shown (Shortest.ofRank .even r)).exponent ∧
      (shown (Shortest.ofRank .even r)).exponent ≤ 22

instance (r : ℕ) : Decidable (Short r) := inferInstanceAs (Decidable (_ ∨ _))

section floats
variable {r : ℕ}

/-- A finite number is read as a finite number. -/
theorem exists_rereadRank? (hr : r < rankLimit) : ∃ s < rankLimit, rereadRank? r = some s := by
  unfold rereadRank?
  split_ifs with hzero
  · exact ⟨0, by decide, rfl⟩
  · exact exists_scaled?_shown (Nat.pos_of_ne_zero hzero) hr

/-- **What is written with few digits is read as itself.** -/
theorem rereadRank?_of_short (hr : r < rankLimit) (h : Short r) : rereadRank? r = some r := by
  unfold rereadRank?
  split_ifs with hzero
  · rw [hzero]
  · obtain ⟨hdigits, hlow, hhigh⟩ := h.resolve_left hzero
    have hnearest := (Shortest.ofRank_spec .even (Nat.pos_of_ne_zero hzero)).nearest
    rw [← shown_units] at hnearest
    exact scaled?_exact hdigits hlow hhigh hr hnearest

/-- The number that is written as `7205759403792796.0` is read as the one next to it. -/
example : rereadRank? 4844071759199705500 = some 4844071759199705501 := by decide +kernel

theorem jsonText_finite (negative : Bool) (rank : Fin rankLimit) :
    Layout.json.text (.finite negative rank) = String.ofList (floatText negative rank).chars := by
  show Layout.sign negative ++ (if rank.val = 0 then "0" ++ Layout.json.wholeEnding
    else Layout.json.decimalText (Shortest.ofRank .even rank.val)) = _
  unfold floatText
  split_ifs with hzero
  · cases negative <;> rfl
  · exact decimalText_eq negative _

theorem floatText_proper (negative : Bool) (r : ℕ) : (floatText negative r).Proper := by
  unfold floatText
  split_ifs with hzero
  · exact
      { whole_run := rfl
        no_zero := Or.inl rfl
        fraction_run := by
          simp only [Option.mem_some_iff, forall_eq']
          decide
        exponent_run := by simp }
  · exact decimalParts_proper negative
      (Shortest.ofRank_spec .even (Nat.pos_of_ne_zero hzero)).digits_pos

/-- What is written for a number is small enough to be taken in as a whole. -/
theorem decimalParts_bounds (negative : Bool) (hpos : 0 < r) (hr : r < rankLimit) :
    ofDigits (decimalParts negative (Shortest.ofRank .even r)).digits ≤ maxInt.toNat ∧
      ofDigits ((decimalParts negative (Shortest.ofRank .even r)).exponent.getD (false, [])).2 ≤
        largestExponent := by
  have hd := Shortest.ofRank_spec .even hpos
  have hlength : (toDigits (Shortest.ofRank .even r).digits).length ≤ 18 :=
    length_toDigits_le (by decide)
      (hd.digits_le.trans_lt (Nat.pow_lt_pow_right (by decide) (by decide)))
  have hscale := Shortest.scale_bounds hpos hr
  have hge := hd.exponent_ge
  have hle := hd.exponent_le
  constructor
  · rw [(decimalParts_shown negative _).1]
    exact (shown_digits_le hd.digits_le).trans (by decide)
  · refine (decimalParts_exponent_le negative _).trans ?_
    unfold largestExponent
    omega

/-- Zero has a text of its own. -/
theorem rank_zero (negative : Bool) :
    NumberText.rank ⟨negative, ['0'], some ['0'], none⟩ = .ok 0 := by
  -- the parts have a name, so that the steps are not computed from them
  obtain ⟨t, ht⟩ : ∃ t, t = NumberText.mk negative ['0'] (some ['0']) none := ⟨_, rfl⟩
  have hdigits : ofDigits t.digits = 0 := by rw [ht]; rfl
  have hplaces : ((t.fraction.getD []).length : ℤ) = 1 := by rw [ht]; rfl
  have hexponent : t.exponentValue - (t.fraction.getD []).length = -1 := by
    rw [hplaces, ht]
    rfl
  have hwritten : ofDigits (t.exponent.getD (false, [])).2 = 0 := by rw [ht]; rfl
  have hscaled : scaled? 0 (-1) = some 0 := by decide +kernel
  rw [← ht, NumberText.rank_eq (by rw [hdigits]; exact Nat.zero_le _)
    (by rw [hwritten]; exact Nat.zero_le _), hdigits, hexponent, hscaled]

/-- The value of what is written for a finite number. -/
theorem floatText_value (negative : Bool) (hr : r < rankLimit) :
    ∃ s < rankLimit, rereadRank? r = some s ∧
      (floatText negative r).value = .ok (.float (.ofRank negative s)) := by
  obtain ⟨s, hs, hreread⟩ := exists_rereadRank? hr
  refine ⟨s, hs, hreread, ?_⟩
  unfold rereadRank? at hreread
  dsimp only at hreread
  unfold floatText
  split_ifs at hreread ⊢ with hzero
  · obtain rfl := Option.some.inj hreread
    rw [NumberText.value_fractional rfl, rank_zero]
    rfl
  · have hpos := Nat.pos_of_ne_zero hzero
    obtain ⟨hdigits, hexponent⟩ := decimalParts_bounds negative hpos hr
    obtain ⟨hshown, hpoint⟩ := decimalParts_shown negative (Shortest.ofRank .even r)
    rw [NumberText.value_fractional (decimalParts_fractional negative _),
      NumberText.rank_eq hdigits hexponent, hshown, hpoint, hreread, decimalParts_negative]
    rfl

end floats

/-! ## Section 5: Numbers in a text -/

section numbers
variable {cur : Cursor} {rest : List Char}

theorem readNumber_gives {t : NumberText} {v : Json} (ht : t.Proper) (hvalue : t.value = .ok v)
    (hcur : cur.rest = t.chars ++ rest) (hrest : Closed rest) : Gives readNumber cur v rest := by
  obtain ⟨after, hread, hafter⟩ :=
    readNumberText_gives (m := .wanted) ht hcur hrest.numberEnds
  refine ⟨after, ?_, hafter⟩
  unfold readNumber
  rw [hread]
  dsimp only [bind, Except.bind]
  rw [hvalue]
  rfl

/-- **An integer is read back**, if 64 bits hold it. -/
theorem readNumber_int {n : ℤ} (hlow : minInt ≤ n) (hhigh : n ≤ maxInt)
    (hcur : cur.rest = (Digits.ofInt n).toList ++ rest) (hrest : Closed rest) :
    Gives readNumber cur (.int n) rest := by
  rw [ofInt_eq, String.toList_ofList] at hcur
  exact readNumber_gives (intText_proper n) (intText_value hlow hhigh) hcur hrest

/-- **A finite number is read as the one that its text is scaled to.** -/
theorem readNumber_float (negative : Bool) (rank : Fin rankLimit)
    (hcur : cur.rest = (Layout.json.text (.finite negative rank)).toList ++ rest)
    (hrest : Closed rest) :
    ∃ s < rankLimit, rereadRank? rank = some s ∧
      Gives readNumber cur (.float (.ofRank negative s)) rest := by
  rw [jsonText_finite, String.toList_ofList] at hcur
  obtain ⟨s, hs, hreread, hvalue⟩ := floatText_value negative rank.isLt
  exact ⟨s, hs, hreread, readNumber_gives (floatText_proper negative rank) hvalue hcur hrest⟩

end numbers

end PropertyFilter.Json
