import PropertyFilter.Proofs.Condition.Number
import PropertyFilter.Proofs.Predicate.Grammar
import PropertyFilter.Proofs.Token.Placing

/-!
  # Numbers are read exactly

  What a text is bound as, if it is a number, is decided by the text alone:

      integer           digits with a value of at most 2^63 - 1
      floating point    any other text of the grammar of numbers
      nothing           the rest

  The zeros in front of an integer count for nothing, and there may be any number of them
  (`ofNumber?_eq_int_iff_padded`).

  Main statement: numbers are read that way, and every number among the words of a filter is
  in the grammar. So no number of a filter is lost, and whether the words are accepted depends
  on their kinds alone (`ofNumber?_eq_iff`).
-/

namespace PropertyFilter

/-! ## Section 1: Texts of numbers -/

/-- `IntText n text`: the text is digits, at least one, and their value is the integer `n`,
which 64 bits hold. -/
structure IntText (n : ℤ) (text : List Char) : Prop where
  run : Digits.isRun text = true
  fits : Digits.ofDigits text ≤ 2 ^ 63 - 1
  value : n = Digits.ofDigits text

/-- Digits are a number of the grammar, whatever their value. -/
theorem exists_floatText_of_isRun {text : List Char} (h : Digits.isRun text = true) :
    ∃ x, FloatText x text := by
  have hdecimal : DecimalText ⟨Digits.ofDigits text, 0⟩ text := by
    simpa using DecimalText.whole h .absent
  exact ⟨_, text, false, .bare, .decimal hdecimal (Decimal.toBinary64_roundsTo _ false)⟩

section text
variable {text : String}

theorem ofNumber?_eq_int_iff {n : ℤ} :
    Param.ofNumber? text = some (.int n) ↔ IntText n text.toList := by
  have hlimit : Param.maxInt = 2 ^ 63 - 1 := rfl
  unfold Param.ofNumber?
  dsimp only
  split
  · next h =>
    obtain ⟨hrun, hfits⟩ : Digits.isRun text.toList = true ∧
        Digits.ofDigits text.toList ≤ Param.maxInt := by simpa using h
    rw [Option.some.injEq, Param.int.injEq]
    constructor
    · rintro rfl
      exact ⟨hrun, hlimit ▸ hfits, rfl⟩
    · rintro ⟨-, -, hvalue⟩
      exact hvalue.symm
  · next h =>
    constructor
    · intro hfloat
      obtain ⟨x, -, hx⟩ := Option.map_eq_some_iff.mp hfloat
      cases hx
    · rintro ⟨hrun, hfits, -⟩
      exact absurd (by simpa using ⟨hrun, hlimit ▸ hfits⟩) h

/-- **Leading zeros**: the texts of an integer are its digits, with any number of zeros in
front, and no others. -/
theorem ofNumber?_eq_int_iff_padded {n : ℤ} :
    Param.ofNumber? text = some (.int n) ↔
      ∃ width value : ℕ, text.toList = Digits.padded width value ∧ value ≤ 2 ^ 63 - 1 ∧
        n = value := by
  rw [ofNumber?_eq_int_iff]
  constructor
  · rintro ⟨hrun, hfits, hvalue⟩
    exact ⟨text.toList.length, _, (Digits.padded_ofDigits hrun).symm, hfits, hvalue⟩
  · rintro ⟨width, value, htext, hfits, hn⟩
    have hvalue : Digits.ofDigits text.toList = value := by
      rw [htext, Digits.ofDigits_padded]
    have hrun : Digits.isRun text.toList = true := by
      rw [htext]
      exact Digits.isRun_padded width value
    exact ⟨hrun, hvalue.trans_le hfits, by rw [hvalue, hn]⟩

theorem ofNumber?_eq_float_iff {x : Binary64} :
    Param.ofNumber? text = some (.float x) ↔
      FloatText x text.toList ∧ ∀ n, ¬IntText n text.toList := by
  constructor
  · intro h
    refine ⟨?_, ?_⟩
    · unfold Param.ofNumber? at h
      dsimp only at h
      split at h
      · cases h
      · obtain ⟨x', hx, hx'⟩ := Option.map_eq_some_iff.mp h
        obtain rfl := Param.float.inj hx'
        exact Binary64.ofText?_eq_some_iff.mp hx
    · intro n hint
      rw [ofNumber?_eq_int_iff.mpr hint] at h
      cases h
  · rintro ⟨hfloat, hint⟩
    unfold Param.ofNumber?
    dsimp only
    rw [if_neg, Binary64.ofText?_eq_some_iff.mpr hfloat, Option.map_some]
    intro h
    have hrun : Digits.isRun text.toList = true ∧
        Digits.ofDigits text.toList ≤ Param.maxInt := by simpa using h
    exact hint _ ⟨hrun.1, hrun.2, rfl⟩

/-- No text is bound as a text. -/
theorem ofNumber?_ne_text (s : String) : Param.ofNumber? text ≠ some (.text s) := by
  unfold Param.ofNumber?
  dsimp only
  split
  · simp
  · simp

/-- A text that is not read is outside the grammar. -/
theorem ofNumber?_eq_none_iff :
    Param.ofNumber? text = none ↔ ∀ x, ¬FloatText x text.toList := by
  constructor
  · intro h x hfloat
    by_cases hint : ∃ n, IntText n text.toList
    · obtain ⟨n, hint⟩ := hint
      rw [ofNumber?_eq_int_iff.mpr hint] at h
      cases h
    · rw [ofNumber?_eq_float_iff.mpr ⟨hfloat, not_exists.mp hint⟩] at h
      cases h
  · intro h
    rw [Option.eq_none_iff_forall_ne_some]
    rintro (n | x | s) hp
    · obtain ⟨x, hfloat⟩ := exists_floatText_of_isRun (ofNumber?_eq_int_iff.mp hp).run
      exact h x hfloat
    · exact h x (ofNumber?_eq_float_iff.mp hp).1
    · exact ofNumber?_ne_text s hp

end text

/-! ## Section 2: Numbers of a filter -/

/-- The text of every word is a spelling of its kind. -/
theorem fits_of_filterTokens {text : String} {tokens : List FilterToken}
    (h : filterTokens text = .ok tokens) : ∀ t ∈ tokens, Fits t.kind t.text.toList := by
  obtain ⟨hcut, -⟩ := (scan_ok_iff_contiguous rfl).mp h
  have hfits := fits_of_mem_cut text.toList
  rw [show (cut filterRules text.toList).1 = tokens.map Token.toPiece from congrArg Prod.fst hcut]
    at hfits
  exact List.forall_mem_map.mp hfits

/-- A number of a filter is digits, with or without a point among them. -/
theorem Fits.exists_numberText {chars : List Char} (h : Fits .number chars) :
    ∃ n : NumberText, n.chars = chars := by
  cases h with
  | fixed hs => cases hs
  | whole hdigits => exact ⟨⟨chars, none, hdigits, by simp⟩, rfl⟩
  | @fraction digits decimals hdigits hdecimals =>
    exact ⟨⟨digits, some decimals, hdigits, by simpa using hdecimals⟩, rfl⟩

/-- **No number of a filter is lost**, and one with a point is not bound as an integer. -/
theorem exists_ofNumber?_of_fits {t : FilterToken} (h : Fits .number t.text.toList) :
    ∃ p, Param.ofNumber? t.text = some p ∧ ('.' ∈ t.text.toList → ∃ x, p = .float x) := by
  obtain ⟨n, hchars⟩ := h.exists_numberText
  have htext : t.text = n.text := by
    unfold NumberText.text
    rw [hchars, String.ofList_toList]
  refine ⟨n.param, ?_, ?_⟩
  · rw [htext, n.ofNumber?_text]
  · intro hpoint
    rw [← hchars] at hpoint
    have hfraction := n.fraction_of_point hpoint
    unfold NumberText.param
    rw [if_neg fun h => hfraction h.1]
    exact ⟨_, rfl⟩

/-! ## Section 3: Acceptance -/

namespace Predicate

/-- The form of an accepted filter: no words at all, or negations and a body. Only the kinds
of the words count. -/
def HasForm (words : List FilterToken) : Prop :=
  words = [] ∨
    ∃ nots body, words = nots ++ body ∧ (∀ t ∈ nots, t.kind = .negation) ∧
      Body (!nots.isEmpty) body

/-- Words of this form are accepted if their numbers can be read. -/
theorem accepted_iff_hasForm {words : List FilterToken}
    (hread : ∀ t ∈ words, t.kind = .number → ∃ p, Param.ofNumber? t.text = some p) :
    Accepted words ↔ HasForm words := by
  constructor
  · rintro (hnil | ⟨nots, body, hwords, hnots, hbody, -⟩)
    · exact Or.inl hnil
    · exact Or.inr ⟨nots, body, hwords, hnots, hbody⟩
  · rintro (hnil | ⟨nots, body, rfl, hnots, hbody⟩)
    · exact Or.inl hnil
    · refine Or.inr ⟨nots, body, rfl, hnots, hbody, ?_⟩
      intro _ t ht
      exact hread t (List.mem_append_right _ ht)

end Predicate

/-- **Numbers are read exactly and never lost.** A text is bound as an integer just if it is
digits whose value 64 bits hold, as a floating point number just if it is any other number of
the grammar, and the rest is refused. Every number among the words of a filter is read, as a
floating point number if it has a point, so that the words are accepted or refused for their
kinds and never for the text of a number. -/
theorem ofNumber?_eq_iff (text : String) :
    (∀ n, Param.ofNumber? text = some (.int n) ↔ IntText n text.toList) ∧
      (∀ x, Param.ofNumber? text = some (.float x) ↔
        FloatText x text.toList ∧ ∀ n, ¬IntText n text.toList) ∧
      (Param.ofNumber? text = none ↔ ∀ x, ¬FloatText x text.toList) ∧
      ∀ tokens, filterTokens text = .ok tokens →
        (∀ t ∈ tokens, t.kind = .number →
          ∃ p, Param.ofNumber? t.text = some p ∧
            (∀ filter, Predicate.numberParam filter t = .ok p) ∧
            ('.' ∈ t.text.toList → ∃ x, p = .float x)) ∧
        ∀ key filter, (∃ c, Predicate.ofTokens key filter tokens = .ok c) ↔
          Predicate.HasForm tokens := by
  refine ⟨fun _ => ofNumber?_eq_int_iff, fun _ => ofNumber?_eq_float_iff,
    ofNumber?_eq_none_iff, ?_⟩
  intro tokens htokens
  have hnumber : ∀ t ∈ tokens, t.kind = .number →
      ∃ p, Param.ofNumber? t.text = some p ∧ ('.' ∈ t.text.toList → ∃ x, p = .float x) := by
    intro t ht hkind
    have hfits := fits_of_filterTokens htokens t ht
    rw [hkind] at hfits
    exact exists_ofNumber?_of_fits hfits
  constructor
  · intro t ht hkind
    obtain ⟨p, hp, hpoint⟩ := hnumber t ht hkind
    exact ⟨p, hp, fun _ => Predicate.numberParam_ok_iff.mpr hp, hpoint⟩
  · intro key filter
    rw [Predicate.exists_ofTokens_iff]
    apply Predicate.accepted_iff_hasForm
    intro t ht hkind
    obtain ⟨p, hp, -⟩ := hnumber t ht hkind
    exact ⟨p, hp⟩

end PropertyFilter
