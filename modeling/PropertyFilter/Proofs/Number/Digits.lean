import Mathlib.Data.List.TakeWhile
import Mathlib.Data.Nat.Digits.Defs
import PropertyFilter.Number.Digits

/-!
  # Digits of a number

  A run of digits denotes the digits in front times a power of ten, and those behind:

      ofDigits (front ++ back)  =  ofDigits front * 10 ^ (length of back) + ofDigits back

  The digits of a number are a run without a leading zero, and as many as its size says. With
zeros in front they are every run of digits that has this value (`padded_ofDigits`).
-/

namespace PropertyFilter

/-! ## Section 1: Runs of digits -/

theorem isRun_iff {cs : List Char} :
    Digits.isRun cs = true ↔ cs ≠ [] ∧ ∀ c ∈ cs, Digits.isDigit c = true := by
  unfold Digits.isRun
  simp

theorem isRun_toDigits (n : Nat) : Digits.isRun (Digits.toDigits n) = true := by
  rw [isRun_iff]
  refine ⟨Nat.toDigits_ne_nil, ?_⟩
  intro c hc
  have hdigit : c.isDigit = true := Nat.isDigit_of_mem_toDigits (by decide) (by decide) hc
  unfold Char.isDigit at hdigit
  unfold Digits.isDigit
  simpa [Char.le_def] using hdigit

namespace Digits

/-- The digits are the characters with codes from 48 to 57. -/
theorem isDigit_iff_code {c : Char} : isDigit c = true ↔ 48 ≤ c.toNat ∧ c.toNat ≤ 57 := by
  unfold isDigit
  simp only [Bool.and_eq_true, decide_eq_true_eq, Char.le_def, UInt32.le_iff_toNat_le]
  exact Iff.rfl

theorem isRun_append {front back : List Char} (hne : front ++ back ≠ [])
    (hfront : ∀ c ∈ front, isDigit c = true) (hback : ∀ c ∈ back, isDigit c = true) :
    isRun (front ++ back) = true := by
  refine isRun_iff.mpr ⟨hne, ?_⟩
  intro c hc
  exact (List.mem_append.mp hc).elim (hfront c) (hback c)

theorem ofDigits_append (front back : List Char) :
    ofDigits (front ++ back) = ofDigits front * 10 ^ back.length + ofDigits back := by
  unfold ofDigits
  rw [Nat.ofDigitChars_append, Nat.ofDigitChars_eq_ofDigitChars_zero, Nat.mul_comm]

theorem ofDigits_zeros (k : Nat) : ofDigits (List.replicate k '0') = 0 := by
  induction k with
  | zero => rfl
  | succ k ih =>
    rw [List.replicate_succ, ← List.singleton_append, ofDigits_append, ih]
    show ofDigits ['0'] * _ + 0 = 0
    rw [show ofDigits ['0'] = 0 from rfl, Nat.zero_mul]

/-- The value of a digit is the distance of its code from that of zero. -/
theorem ofDigits_singleton (c : Char) : ofDigits [c] = c.toNat - 48 := by
  have hvalue : ofDigits [c] = 10 * 0 + (c.toNat - 48) := rfl
  omega

section run
variable {cs ds : List Char}

/-- The value of digits is less than that of a one with as many zeros. -/
theorem ofDigits_lt (h : ∀ c ∈ cs, isDigit c = true) : ofDigits cs < 10 ^ cs.length := by
  induction cs with
  | nil => exact Nat.one_pos
  | cons c cs ih =>
    obtain ⟨hc, hcs⟩ := List.forall_mem_cons.mp h
    have hfirst : ofDigits [c] < 10 := by
      have hcode := isDigit_iff_code.mp hc
      rw [ofDigits_singleton]
      omega
    rw [← List.singleton_append, ofDigits_append, List.length_append, pow_add]
    calc ofDigits [c] * 10 ^ cs.length + ofDigits cs
        < ofDigits [c] * 10 ^ cs.length + 10 ^ cs.length := Nat.add_lt_add_left (ih hcs) _
      _ = (ofDigits [c] + 1) * 10 ^ cs.length := by ring
      _ ≤ 10 * 10 ^ cs.length := Nat.mul_le_mul_right _ hfirst

/-- As many digits with the same value are the same digits. -/
theorem ofDigits_inj (hcs : ∀ c ∈ cs, isDigit c = true) (hds : ∀ d ∈ ds, isDigit d = true)
    (hlength : cs.length = ds.length) (hvalue : ofDigits cs = ofDigits ds) : cs = ds := by
  induction cs generalizing ds with
  | nil => exact (List.length_eq_zero_iff.mp hlength.symm).symm
  | cons c cs ih =>
    obtain ⟨d, ds, rfl⟩ := List.exists_cons_of_length_eq_add_one hlength.symm
    obtain ⟨hc, hcs⟩ := List.forall_mem_cons.mp hcs
    obtain ⟨hd, hds⟩ := List.forall_mem_cons.mp hds
    have hlength : cs.length = ds.length := Nat.succ.inj hlength
    rw [← List.singleton_append, ← List.singleton_append (l := ds), ofDigits_append,
      ofDigits_append, hlength] at hvalue
    -- the digits behind the leading one are the remainder by the power of ten
    have hrest : ofDigits cs = ofDigits ds := by
      have hlow := ofDigits_lt hcs
      rw [hlength] at hlow
      have hremainder := congrArg (· % 10 ^ ds.length) hvalue
      simpa only [Nat.mul_add_mod', Nat.mod_eq_of_lt hlow, Nat.mod_eq_of_lt (ofDigits_lt hds)]
        using hremainder
    have hfirst : ofDigits [c] = ofDigits [d] := by
      rw [hrest] at hvalue
      exact Nat.eq_of_mul_eq_mul_right (by positivity) (Nat.add_right_cancel hvalue)
    have hcode : c.toNat = d.toNat := by
      rw [ofDigits_singleton, ofDigits_singleton] at hfirst
      have hc := isDigit_iff_code.mp hc
      have hd := isDigit_iff_code.mp hd
      omega
    rw [Char.toNat_inj.mp hcode, ih hcs hds hlength hrest]

end run

/-! ## Section 2: The digits of a number -/

section number
variable {n k : Nat}

theorem length_toDigits_pos (n : Nat) : 0 < (toDigits n).length := Nat.length_toDigits_pos

theorem lt_pow_length (n : Nat) : n < 10 ^ (toDigits n).length :=
  (Nat.length_toDigits_le_iff (by decide) Nat.length_toDigits_pos).mp le_rfl

theorem pow_length_le (hn : 0 < n) : 10 ^ ((toDigits n).length - 1) ≤ n := by
  have hpos := length_toDigits_pos n
  by_contra hlt
  by_cases hone : (toDigits n).length = 1
  · rw [hone] at hlt
    omega
  · have hshort : (toDigits n).length ≤ (toDigits n).length - 1 :=
      (Nat.length_toDigits_le_iff (by decide) (by omega)).mpr (not_le.mp hlt)
    omega

theorem length_toDigits_le (hk : 0 < k) (hn : n < 10 ^ k) : (toDigits n).length ≤ k :=
  (Nat.length_toDigits_le_iff (by decide) hk).mpr hn

/-- Zeros in front of a number do not change it. -/
theorem ofDigits_padded (width n : Nat) : ofDigits (padded width n) = n := by
  unfold padded
  rw [ofDigits_append, ofDigits_zeros, Nat.zero_mul, Nat.zero_add, ofDigits_toDigits]

/-- A number that fits a width is written in it. -/
theorem length_padded (hk : 0 < k) (hn : n < 10 ^ k) : (padded k n).length = k := by
  have hle := length_toDigits_le hk hn
  unfold padded
  rw [List.length_append, List.length_replicate]
  omega

theorem isRun_padded (width n : Nat) : isRun (padded width n) = true := by
  obtain ⟨hne, hdigits⟩ := isRun_iff.mp (isRun_toDigits n)
  refine isRun_append (List.append_ne_nil_of_right_ne_nil _ hne) ?_ hdigits
  intro c hc
  obtain rfl := List.eq_of_mem_replicate hc
  decide

/-- **A run of digits** is its value, with zeros in front up to its length. -/
theorem padded_ofDigits {cs : List Char} (h : isRun cs = true) :
    padded cs.length (ofDigits cs) = cs := by
  obtain ⟨hne, hdigits⟩ := isRun_iff.mp h
  have hpadded := (isRun_iff.mp (isRun_padded cs.length (ofDigits cs))).2
  have hlength : (padded cs.length (ofDigits cs)).length = cs.length :=
    length_padded (List.length_pos_iff.mpr hne) (ofDigits_lt hdigits)
  exact ofDigits_inj hpadded hdigits hlength (ofDigits_padded _ _)

/-- No number but zero is written with a zero in front. -/
theorem head?_toDigits (hn : 0 < n) : (toDigits n).head? ≠ some '0' := by
  induction n using Nat.strong_induction_on with
  | _ n ih =>
    unfold toDigits at ih ⊢
    by_cases hone : n < 10
    · rw [Nat.toDigits_of_lt_base hone]
      intro h
      have hzero := Nat.digitChar_eq_zero.mp (Option.some.inj h)
      omega
    · rw [Nat.toDigits_of_base_le (by decide) (by omega)]
      have hfront := ih (n / 10) (by omega) (by omega)
      rw [List.head?_append]
      cases hhead : (Nat.toDigits 10 (n / 10)).head? with
      | none => exact absurd (List.head?_eq_none_iff.mp hhead) Nat.toDigits_ne_nil
      | some c =>
        rw [hhead] at hfront
        exact hfront

/-- The zeros at the end of a number as a power of ten. -/
theorem exists_mul_pow_zeros (n : Nat) :
    ∃ m, n = m * 10 ^ ((toDigits n).reverse.takeWhile (· = '0')).length := by
  obtain ⟨zeros, hzeros⟩ : ∃ zeros, zeros = ((toDigits n).reverse.takeWhile (· = '0')) := ⟨_, rfl⟩
  have hsplit : toDigits n = ((toDigits n).reverse.dropWhile (· = '0')).reverse ++ zeros.reverse := by
    rw [← List.reverse_append, hzeros, List.takeWhile_append_dropWhile, List.reverse_reverse]
  have hall : zeros.reverse = List.replicate zeros.length '0' := by
    rw [List.eq_replicate_iff]
    refine ⟨by simp, ?_⟩
    intro c hc
    rw [List.mem_reverse, hzeros] at hc
    simpa using List.mem_takeWhile_imp hc
  refine ⟨ofDigits ((toDigits n).reverse.dropWhile (· = '0')).reverse, ?_⟩
  have hvalue := congrArg ofDigits hsplit
  rwa [ofDigits_toDigits, ofDigits_append, hall, ofDigits_zeros, List.length_replicate,
    Nat.add_zero, hzeros] at hvalue

end number

end Digits

end PropertyFilter
