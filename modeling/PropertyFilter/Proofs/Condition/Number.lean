import PropertyFilter.Condition.Param
import PropertyFilter.Proofs.Filter.Spelling
import PropertyFilter.Proofs.Number.Grammar

/-!
  # Texts of numbers

  A number is written as a run of digits, or as two runs with a point between them. Every
  such text has a value: an integer if there is no point and 64 bits hold it, otherwise
  the double precision number nearest to the decimal fraction (`ofNumber?_text`).
-/

namespace PropertyFilter

/-- The text of a number: digits, and further digits behind a point if there is one. -/
structure NumberText where
  whole : List Char
  fraction : Option (List Char)
  whole_run : Digits.isRun whole = true
  fraction_run : ∀ digits ∈ fraction, Digits.isRun digits = true

namespace NumberText

/-- The characters of a number. -/
def chars (n : NumberText) : List Char :=
  match n.fraction with
  | none => n.whole
  | some digits => n.whole ++ '.' :: digits

/-- The text of a number. -/
def text (n : NumberText) : String := String.ofList n.chars

/-- The decimal fraction that a number says. -/
def decimal (n : NumberText) : Decimal :=
  match n.fraction with
  | none => ⟨Digits.ofDigits n.whole, 0⟩
  | some digits => ⟨Digits.ofDigits (n.whole ++ digits), -digits.length⟩

/-- The value that a number is bound to. -/
def param (n : NumberText) : Param :=
  if n.fraction = none ∧ Digits.ofDigits n.whole ≤ Param.maxInt then
    .int (Digits.ofDigits n.whole)
  else .float (n.decimal.toBinary64 false)

/-! ## Section 1: Characters -/

/-- A number begins with a digit. -/
theorem exists_digit (n : NumberText) :
    ∃ c cs, n.chars = c :: cs ∧ Digits.isDigit c = true := by
  obtain ⟨hne, hall⟩ := isRun_iff.mp n.whole_run
  obtain ⟨c, cs, hwhole⟩ := List.exists_cons_of_ne_nil hne
  rw [hwhole] at hall
  have hc : Digits.isDigit c = true := hall c (List.mem_cons_self ..)
  unfold chars
  cases n.fraction with
  | none => exact ⟨c, cs, hwhole, hc⟩
  | some digits => exact ⟨c, cs ++ '.' :: digits, by simp [hwhole], hc⟩

/-- Only a number without a point is a run of digits. -/
theorem isRun_chars (n : NumberText) : Digits.isRun n.chars = true ↔ n.fraction = none := by
  unfold chars
  cases hf : n.fraction with
  | none => simp [n.whole_run]
  | some digits =>
    constructor
    · -- the point is no digit
      intro hrun
      have hpoint := (isRun_iff.mp hrun).2 '.' (by simp)
      exact absurd hpoint (by decide)
    · intro hnone
      cases hnone

/-- A number with a point has a fraction. -/
theorem fraction_of_point (n : NumberText) (h : '.' ∈ n.chars) :
    n.fraction ≠ none := by
  intro hnone
  rw [← n.isRun_chars] at hnone
  exact absurd ((isRun_iff.mp hnone).2 '.' h) (by decide)

/-! ## Section 2: Values -/

/-- A number says a decimal fraction without an exponent. -/
theorem decimalText (n : NumberText) : DecimalText n.decimal n.chars := by
  unfold decimal chars
  cases hf : n.fraction with
  | none => simpa using DecimalText.whole n.whole_run .absent
  | some digits =>
    obtain ⟨hne, hwhole⟩ := isRun_iff.mp n.whole_run
    have hdigits := (isRun_iff.mp (n.fraction_run digits hf)).2
    have hrun : Digits.isRun (n.whole ++ digits) = true :=
      Digits.isRun_append (List.append_ne_nil_of_left_ne_nil hne _) hwhole hdigits
    simpa using DecimalText.pointed hrun .absent

/-- A number has no sign and is no word, so it is read as a decimal fraction. -/
theorem binary64_ofText? (n : NumberText) :
    Binary64.ofText? n.chars = some (n.decimal.toBinary64 false) := by
  rw [Binary64.ofText?_eq_some_iff]
  exact ⟨n.chars, false, .bare, .decimal n.decimalText (n.decimal.toBinary64_roundsTo false)⟩

/-- **Every number has its value.** -/
theorem ofNumber?_text (n : NumberText) : Param.ofNumber? n.text = some n.param := by
  have hrun := n.isRun_chars
  unfold Param.ofNumber? param text
  simp only [String.toList_ofList, binary64_ofText?, Option.map_some]
  by_cases hf : n.fraction = none
  · have hwhole : n.chars = n.whole := by
      unfold chars
      rw [hf]
    rw [hwhole] at hrun ⊢
    by_cases hfits : Digits.ofDigits n.whole ≤ Param.maxInt
    · rw [if_pos (by simp [hrun.mpr hf, hfits]), if_pos ⟨hf, hfits⟩]
    · rw [if_neg (by simp [hfits]), if_neg fun h => hfits h.2]
  · have hpoint : Digits.isRun n.chars = false := by
      rw [Bool.eq_false_iff]
      intro h
      exact hf (hrun.mp h)
    rw [if_neg (by simp [hpoint]), if_neg fun h => hf h.1]

end NumberText

end PropertyFilter
