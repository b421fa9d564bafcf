import PropertyFilter.Proofs.Condition.Compound
import PropertyFilter.Proofs.Predicate.Refusal

/-!
  # Refused filters

  A conversion that fails does so at one operand, and the fault is that of this operand:

      whole     the filter is not compound                  the filter itself
      left      it is compound, and its left part refused   the left part
      right     the left part is accepted, the right not    the right part

  The parser names the text that it has been given. For a filter that is not compound this is
  the filter as it was written; for a compound one it is a part of it, so that the rest of the
  filter is missing from the fault.

  Main statement: words that are no expression are reported with the operand at fault, which
  is the whole filter just if the filter is not compound (`convert_invalidExpression_iff`).
-/

namespace PropertyFilter

open Conversion

/-! ## Section 1: The operand at fault -/

/-- `RefusedAt key value fault operand`: the filter `value` is refused with `fault`, since its
operand `operand` is. -/
inductive RefusedAt (key value : String) (fault : Fault) : String → Prop
  /-- A filter that is not compound is its own operand. -/
  | whole : Unsplit value → (simple key value).result = .error fault →
      RefusedAt key value fault value
  /-- The left operand is looked at first. -/
  | left {tokens : List SplitToken} {filter : Compound} :
      splitTokens value = .ok tokens → Compound.ofTokens? tokens = some filter →
      (simple key filter.left).result = .error fault → RefusedAt key value fault filter.left
  | right {tokens : List SplitToken} {filter : Compound} {l : Condition} :
      splitTokens value = .ok tokens → Compound.ofTokens? tokens = some filter →
      (simple key filter.left).result = .ok l → (simple key filter.right).result = .error fault →
      RefusedAt key value fault filter.right

section refused
variable {key value operand : String} {fault : Fault}

theorem RefusedAt.convert_eq (h : RefusedAt key value fault operand) :
    convert (.name key) value = .error fault := by
  cases h with
  | whole hsplit hwhole => rw [hsplit.convert_eq, hwhole]
  | left hs hf hleft =>
    rw [convert_of_compound hs hf, hleft]
    rfl
  | right hs hf hleft hright =>
    rw [convert_of_compound hs hf, hleft, hright]
    rfl

/-- **A refused filter has an operand at fault.** -/
theorem exists_refusedAt (h : convert (.name key) value = .error fault) :
    ∃ operand, RefusedAt key value fault operand := by
  cases hs : splitTokens value with
  | error e =>
    -- what cannot be split is a literal
    rw [convert_ok_iff.mpr (.literal hs)] at h
    cases h
  | ok tokens =>
    cases hf : Compound.ofTokens? tokens with
    | none =>
      have hsplit : Unsplit value := ⟨tokens, hs, hf⟩
      rw [hsplit.convert_eq] at h
      exact ⟨value, .whole hsplit h⟩
    | some filter =>
      rw [convert_of_compound hs hf] at h
      cases hleft : (simple key filter.left).result with
      | error e =>
        rw [hleft] at h
        cases h
        exact ⟨filter.left, .left hs hf hleft⟩
      | ok l =>
        cases hright : (simple key filter.right).result with
        | error e =>
          rw [hleft, hright] at h
          cases h
          exact ⟨filter.right, .right hs hf hleft hright⟩
        | ok r =>
          rw [hleft, hright] at h
          cases h

/-- The operand at fault is refused with the fault. -/
theorem RefusedAt.simple_eq (h : RefusedAt key value fault operand) :
    (simple key operand).result = .error fault := by
  cases h with
  | whole _ hwhole => exact hwhole
  | left _ _ hleft => exact hleft
  | right _ _ _ hright => exact hright

end refused

/-! ## Section 2: The text of a fault -/

/-- Words are reported with the text that they have been read from, at any depth of negation. -/
theorem Predicate.ofTokens_invalidExpression {key filter reported : String}
    {words : List FilterToken}
    (h : ofTokens key filter words = .error (.invalidExpression reported)) : reported = filter := by
  rcases misused_of_ofTokens h with hmisused | hwhole
  · exact absurd rfl (hmisused.ne_invalidExpression reported)
  · exact Fault.invalidExpression.inj hwhole

theorem simple_invalidExpression {key text reported : String}
    (h : (simple key text).result = .error (.invalidExpression reported)) : reported = text := by
  rw [simple_result] at h
  cases hwords : filterTokens text with
  | error e =>
    rw [hwords] at h
    cases h
  | ok words =>
    rw [hwords] at h
    exact Predicate.ofTokens_invalidExpression h

/-- The operands of a compound filter are shorter than the filter, by the sign at least. -/
theorem length_operand_lt {value : String} {tokens : List SplitToken} {filter : Compound}
    (hs : splitTokens value = .ok tokens) (hf : Compound.ofTokens? tokens = some filter) :
    filter.left.toList.length < value.toList.length ∧
      filter.right.toList.length < value.toList.length := by
  obtain ⟨l, op, r, rfl, hop, hl, hr⟩ := Compound.ofTokens?_eq_some_iff.mp hf
  -- the text is two trimmed sides with the sign between them
  obtain ⟨p, q, -, -, htext, hleft, hright, -⟩ := exists_sides hs hop
  have hp := length_trim_le p.chars
  have hq := length_trim_le q.chars
  simp only [htext, ← hl, ← hr, hleft, hright, String.toList_ofList, List.length_append,
    List.length_cons]
  omega

/-- Only a filter that is not compound is itself at fault. -/
theorem RefusedAt.operand_eq_iff {key value operand : String} {fault : Fault}
    (h : RefusedAt key value fault operand) : operand = value ↔ Unsplit value := by
  -- a filter is either compound or not
  have hcompound {tokens : List SplitToken} {filter : Compound}
      (hs : splitTokens value = .ok tokens) (hf : Compound.ofTokens? tokens = some filter) :
      ¬Unsplit value := by
    rintro ⟨tokens', hs', hf'⟩
    obtain rfl : tokens = tokens' := Except.ok.inj (hs.symm.trans hs')
    rw [hf] at hf'
    cases hf'
  have hshorter {text : String} (hlength : text.toList.length < value.toList.length) :
      text ≠ value := by
    rintro rfl
    exact Nat.lt_irrefl _ hlength
  cases h with
  | whole hsplit => exact iff_of_true rfl hsplit
  | left hs hf =>
    exact iff_of_false (hshorter (length_operand_lt hs hf).1) (hcompound hs hf)
  | right hs hf =>
    exact iff_of_false (hshorter (length_operand_lt hs hf).2) (hcompound hs hf)

/-- **The operand at fault is reported.** A filter is refused as no expression, with a text,
exactly when this text is the operand at fault; and that is the whole filter if and only if the
filter is not compound. -/
theorem convert_invalidExpression_iff (key value reported : String) :
    convert (.name key) value = .error (.invalidExpression reported) ↔
      RefusedAt key value (.invalidExpression reported) reported ∧
        (reported = value ↔ Unsplit value) := by
  constructor
  · intro h
    -- the fault of an operand names the operand, so there is no choice of it
    obtain ⟨operand, hrefused⟩ := exists_refusedAt h
    obtain rfl := simple_invalidExpression hrefused.simple_eq
    exact ⟨hrefused, hrefused.operand_eq_iff⟩
  · rintro ⟨hrefused, -⟩
    exact hrefused.convert_eq

/-- A list that is not closed behind a sign: the fault names the list alone. -/
theorem convert_invalidExpression_operand :
    convert (.name "property") "5+in(1," = .error (.invalidExpression "in(1,") ∧
      "in(1," ≠ "5+in(1," := by
  constructor
  · decide +kernel
  · decide

end PropertyFilter
