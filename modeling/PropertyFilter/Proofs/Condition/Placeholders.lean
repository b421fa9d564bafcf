import PropertyFilter.Proofs.Condition.Conversion
import PropertyFilter.Proofs.Predicate.Expression
import PropertyFilter.Proofs.Predicate.Grammar

/-!
  # Placeholders and values of a condition

  A conversion joins the expressions and the values of its operands. Both keep step:
  a condition has one placeholder for each value, and the values are those of the
  operands from left to right, one for each number or quoted text among the words of
  an operand and a single one for an operand that is bound as it is.

  Main statement: `placeholders_match_params`, of every filter about a key without `?`
  and of every list of words.
-/

namespace PropertyFilter

open Predicate Conversion

/-! ## Section 1: Values of a filter -/

/-- What the values of an operand are bound to, in order: those of its words, or the
operand itself if it has no words. -/
def operandValues (text : String) : List (Option Param) :=
  match filterTokens text with
  | .error _ => [some (.text text)]
  | .ok tokens => boundValues tokens

/-- What the values of a filter are bound to, in order: the filter itself if it cannot
be split, those of the left operand before those of the right one if it is compound. -/
def filterValues (value : String) : List (Option Param) :=
  match splitTokens value with
  | .error _ => [some (.text value)]
  | .ok tokens =>
    match Compound.ofTokens? tokens with
    | some filter => operandValues filter.left ++ operandValues filter.right
    | none => operandValues value

theorem Conversion.OperandConverts.params_eq {key text : String} {c : Condition}
    (h : OperandConverts key text c) : c.params.map some = operandValues text := by
  unfold operandValues
  cases h with
  | literal ht =>
    rw [ht]
    rfl
  | words ht hc =>
    rw [ht]
    exact ofTokens_params hc

theorem Conversion.Converts.params_eq {key value : String} {c : Condition}
    (h : Converts key value c) : c.params.map some = filterValues value := by
  unfold filterValues
  cases h with
  | literal hs =>
    rw [hs]
    rfl
  | compound hs hf hl hr =>
    simp only [hs, hf]
    rw [← hl.params_eq, ← hr.params_eq]
    exact List.map_append
  | simple hs hf hc =>
    simp only [hs, hf]
    exact hc.params_eq

/-! ## Section 2: Expressions of a filter -/

section expression
variable {key : String}

theorem placed_join {l r : Condition} (hl : Placed l.params.length l.expression.toList)
    (hr : Placed r.params.length r.expression.toList) (sign : Connective) :
    Placed (l.join sign r).params.length (l.join sign r).expression.toList := by
  have htext : (l.join sign r).expression.toList =
      l.expression.toList ++ (sign.spaced.toList ++ r.expression.toList) := by
    simp [Condition.join]
  have hparams : (l.join sign r).params.length = l.params.length + r.params.length := by
    simp [Condition.join]
  rw [htext, hparams]
  -- a connective has a space on either side
  cases sign with
  | and => exact hl.append (.sign_append (by decide) hr (by decide)) (Or.inr rfl)
  | or => exact hl.append (.sign_append (by decide) hr (by decide)) (Or.inr rfl)

theorem placed_ofTokens (hkey : '?' ∉ key.toList) {filter : String}
    {words : List FilterToken} {c : Condition} (h : ofTokens key filter words = .ok c) :
    Placed c.params.length c.expression.toList := by
  rcases ofTokens_ok_iff.mp h with ⟨-, rfl⟩ | hd
  · -- what always holds says nothing
    exact ⟨rfl, .nil⟩
  · exact hd.placed hkey

theorem Conversion.OperandConverts.placed (hkey : '?' ∉ key.toList) {text : String}
    {c : Condition} (h : OperandConverts key text c) :
    Placed c.params.length c.expression.toList := by
  cases h with
  | literal => exact placed_value hkey
  | words _ hc => exact placed_ofTokens hkey hc

/-- The expression of a filter has one placeholder for each value, all of them apart. -/
theorem Conversion.Converts.placed (hkey : '?' ∉ key.toList) {value : String}
    {c : Condition} (h : Converts key value c) :
    Placed c.params.length c.expression.toList := by
  cases h with
  | literal => exact placed_value hkey
  | compound _ _ hl hr => exact placed_join (hl.placed hkey) (hr.placed hkey) _
  | simple _ _ hc => exact hc.placed hkey

theorem Conversion.OperandConverts.madeOf {text : String} {c : Condition}
    (h : OperandConverts key text c) : MadeOf key c.expression := by
  cases h with
  | literal => exact madeOf_behind_key (by decide)
  | words _ hc =>
    rcases ofTokens_ok_iff.mp hc with ⟨-, rfl⟩ | hd
    · exact madeOf_piece rfl
    · exact hd.madeOf

/-- The expression of a filter is made of the key and of fixed pieces. -/
theorem Conversion.Converts.madeOf {value : String} {c : Condition}
    (h : Converts key value c) : MadeOf key c.expression := by
  cases h with
  | literal => exact madeOf_behind_key (by decide)
  | @compound _ filter l r _ _ hl hr =>
    have hsign : MadeOf key filter.connective.spaced := by
      cases filter.connective with
      | and => exact madeOf_piece (by decide)
      | or => exact madeOf_piece (by decide)
    exact .append (.append hl.madeOf hsign) hr.madeOf
  | simple _ _ hc => exact hc.madeOf

end expression

/-! ## Section 3: Placeholders match values -/

/-- **Placeholders match values.** For a key without `?`, every converted filter has as
many placeholders as values, and its values are those of its operands from left to
right. The same holds of every accepted list of words, whatever their texts. -/
theorem placeholders_match_params (key : String) (hkey : '?' ∉ key.toList) :
    (∀ value c, convert (.name key) value = .ok c →
      c.placeholderCount = c.params.length ∧ c.params.map some = filterValues value) ∧
    (∀ filter words c, ofTokens key filter words = .ok c →
      c.placeholderCount = c.params.length ∧ c.params.map some = boundValues words) := by
  constructor
  · intro value c h
    have hc := convert_ok_iff.mp h
    exact ⟨(hc.placed hkey).count, hc.params_eq⟩
  · intro filter words c h
    exact ⟨(placed_ofTokens hkey h).count, ofTokens_params h⟩

/-- A list and a text that holds a `?` itself: three placeholders for three values. -/
theorem placeholders_match_params_compound :
    let c : Condition :=
      ⟨"size in(?,?) OR size = ?", [.int 5, .int 12, .text "a?"]⟩
    '?' ∉ "size".toList ∧ convert (.name "size") "in(5,12)-='a?'" = .ok c ∧
      c.placeholderCount = 3 ∧ c.params.map some = filterValues "in(5,12)-='a?'" := by
  intro c
  have hkey : '?' ∉ "size".toList := by decide
  have hc : convert (.name "size") "in(5,12)-='a?'" = .ok c := by decide +kernel
  obtain ⟨hcount, hvalues⟩ := (placeholders_match_params "size" hkey).1 _ c hc
  exact ⟨hkey, hc, hcount, hvalues⟩

end PropertyFilter
