import PropertyFilter.Condition.Conversion

/-!
  # Runs of a conversion

  A conversion splits the filter, decides whether it is compound, and converts one or
  two operands. Here the successful runs are given as a relation:

      literal    the split fails              key = ?  bound to the filter
      compound   two operands and a sign      both operands, joined
      simple     anything else                the filter as one operand

  and an operand is a literal if it cannot be cut into words, the predicate of its
  words otherwise. The relation is exact (`convert_ok_iff`).
-/

namespace PropertyFilter.Conversion

/-- `OperandConverts key text c`: the operand `text` becomes the condition `c`. -/
inductive OperandConverts (key : String) : String → Condition → Prop
  | literal {text : String} {e : ScanError} :
      filterTokens text = .error e → OperandConverts key text (literal key text)
  | words {text : String} {tokens : List FilterToken} {c : Condition} :
      filterTokens text = .ok tokens → Predicate.ofTokens key text tokens = .ok c →
      OperandConverts key text c

/-- `Converts key value c`: the filter `value` becomes the condition `c`. -/
inductive Converts (key : String) : String → Condition → Prop
  | literal {value : String} {e : ScanError} :
      splitTokens value = .error e → Converts key value (literal key value)
  | compound {value : String} {tokens : List SplitToken} {filter : Compound}
      {l r : Condition} :
      splitTokens value = .ok tokens → Compound.ofTokens? tokens = some filter →
      OperandConverts key filter.left l → OperandConverts key filter.right r →
      Converts key value (l.join filter.connective r)
  | simple {value : String} {tokens : List SplitToken} {c : Condition} :
      splitTokens value = .ok tokens → Compound.ofTokens? tokens = none →
      OperandConverts key value c → Converts key value c

theorem simple_ok_iff {key text : String} {c : Condition} :
    (simple key text).result = .ok c ↔ OperandConverts key text c := by
  unfold simple
  constructor
  · intro h
    cases ht : filterTokens text with
    | error e =>
      rw [ht] at h
      cases h
      exact .literal ht
    | ok tokens =>
      rw [ht] at h
      exact .words ht h
  · intro h
    cases h with
    | literal ht => rw [ht]
    | words ht hc =>
      rw [ht]
      exact hc

/-- The left operand is converted first; its fault is that of the whole. -/
theorem compound_result (key : String) (filter : Compound) :
    (compound key filter).result =
      (simple key filter.left).result.bind fun l =>
        (simple key filter.right).result.map (l.join filter.connective ·) := by
  unfold compound
  dsimp only
  split
  · next fault hl =>
    rw [hl]
    rfl
  · next l hl =>
    rw [hl]
    rfl

theorem compound_ok_iff {key : String} {filter : Compound} {c : Condition} :
    (compound key filter).result = .ok c ↔
      ∃ l r, OperandConverts key filter.left l ∧ OperandConverts key filter.right r ∧
        c = l.join filter.connective r := by
  simp only [← simple_ok_iff, compound_result]
  -- the right operand counts only if the left one is accepted
  cases hl : (simple key filter.left).result with
  | error fault => simp [Except.bind]
  | ok l =>
    cases hr : (simple key filter.right).result with
    | error fault => simp [Except.bind, Except.map]
    | ok r => simp [Except.bind, Except.map, eq_comm]

/-- **The runs are exact**: a filter is converted to the conditions of its runs, and to
no other. -/
theorem convert_ok_iff {key value : String} {c : Condition} :
    convert (.name key) value = .ok c ↔ Converts key value c := by
  show (named key value).result = .ok c ↔ Converts key value c
  unfold named
  constructor
  · intro h
    cases hs : splitTokens value with
    | error e =>
      rw [hs] at h
      cases h
      exact .literal hs
    | ok tokens =>
      simp only [hs] at h
      cases hf : Compound.ofTokens? tokens with
      | none =>
        rw [hf] at h
        exact .simple hs hf (simple_ok_iff.mp h)
      | some filter =>
        rw [hf] at h
        obtain ⟨l, r, hl, hr, rfl⟩ := compound_ok_iff.mp h
        exact .compound hs hf hl hr
  · intro h
    cases h with
    | literal hs => rw [hs]
    | compound hs hf hl hr =>
      simp only [hs, hf]
      exact compound_ok_iff.mpr ⟨_, _, hl, hr, rfl⟩
    | simple hs hf hc =>
      simp only [hs, hf]
      exact simple_ok_iff.mpr hc

end PropertyFilter.Conversion
