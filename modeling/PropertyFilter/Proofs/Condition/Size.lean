import PropertyFilter.Proofs.Condition.Placeholders
import PropertyFilter.Proofs.Token.Cutting

/-!
  # Number of values

  Every value of a condition is bound for a word of its filter, and a word has at least
  one character: a condition has no more values than its filter has characters
  (`Converts.length_params_le`).
-/

namespace PropertyFilter.Conversion

open Predicate

theorem length_boundValues_le (words : List FilterToken) :
    (boundValues words).length ≤ words.length := by
  unfold boundValues valueWords
  rw [List.length_map]
  exact List.length_filter_le _ _

theorem OperandConverts.length_params_le {key text : String} {c : Condition}
    (h : OperandConverts key text c) : c.params.length ≤ text.toList.length := by
  cases h with
  | literal ht =>
    -- a text that cannot be cut is not empty
    exact List.length_pos_of_ne_nil (ne_nil_of_scan_error ht)
  | @words tokens _ ht hc =>
    have hparams : c.params.length = (boundValues tokens).length := by
      rw [← ofTokens_params hc, List.length_map]
    have htokens := length_scan_le ht
    have hvalues := length_boundValues_le tokens
    omega

/-- The operands of a compound filter are the outer two of three tokens. -/
theorem length_operands_le {tokens : List SplitToken} {filter : Compound}
    (h : Compound.ofTokens? tokens = some filter) :
    filter.left.toList.length + filter.right.toList.length ≤
      (tokens.map fun t => t.text.toList.length).sum := by
  obtain ⟨l, op, r, rfl, -, hl, hr⟩ := Compound.ofTokens?_eq_some_iff.mp h
  simp only [← hl, ← hr, List.map_cons, List.map_nil, List.sum_cons, List.sum_nil]
  omega

/-- **No more values than characters**, whatever the filter. -/
theorem Converts.length_params_le {key value : String} {c : Condition}
    (h : Converts key value c) : c.params.length ≤ value.toList.length := by
  cases h with
  | literal hs => exact List.length_pos_of_ne_nil (ne_nil_of_scan_error hs)
  | @compound tokens filter l r hs hf hl hr =>
    have hl := hl.length_params_le
    have hr := hr.length_params_le
    have hoperands : filter.left.toList.length + filter.right.toList.length ≤
        value.toList.length :=
      Nat.le_trans (length_operands_le hf) (sum_text_scan_le hs)
    simp only [Condition.join, List.length_append]
    omega
  | simple _ _ hc => exact hc.length_params_le

end PropertyFilter.Conversion
