import Mathlib.Data.List.Forall2
import PropertyFilter.Proofs.Condition.Conversion
import PropertyFilter.Proofs.Predicate.Derivation

/-!
  # Expressions do not depend on operands

  Two filters that differ in the texts of their operands only are run side by side. At
  every step either both runs go on or both stop with the same fault, and what they have
  written of the expression so far is the same, so that even the search for `not` in the
  expression behind a negation cannot tell them apart:

      Alike t u        words of one kind, both with a number or with stars, or both without
      InStep R x y     both give values that `R` relates, or both give faults of one variant

  Main statement: `expression_independent`, of all lists of words and of all filters that
  are bound as they are.
-/

namespace PropertyFilter

open Predicate Conversion

/-! ## Section 1: Runs side by side -/

/-- Faults that differ in the filter that they name at most. -/
inductive Fault.SameVariant : Fault → Fault → Prop
  | same (e : Fault) : SameVariant e e
  | named (filter filter' : String) :
      SameVariant (.invalidExpression filter) (.invalidExpression filter')

/-- Two runs that go the same way: both give values, which `R` relates, or both give faults
of one variant. -/
inductive InStep {α : Type} (R : α → α → Prop) : Except Fault α → Except Fault α → Prop
  | ok {a b : α} : R a b → InStep R (.ok a) (.ok b)
  | fault {e f : Fault} : e.SameVariant f → InStep R (.error e) (.error f)

/-- Conditions with one expression. -/
def SameExpression (c d : Condition) : Prop := c.expression = d.expression

/-- As many values on both sides. -/
def SameLength (ps qs : List Param) : Prop := ps.length = qs.length

/-- Words that are not told apart: of one kind, and if they are numbers both can be read,
if they are quoted texts both are split by stars or both are not. -/
structure Alike (t u : FilterToken) : Prop where
  kind : t.kind = u.kind
  readable : t.kind = .number →
    (Param.ofNumber? t.text).isSome = true ∧ (Param.ofNumber? u.text).isSome = true
  stars : t.kind = .quoted →
    (1 < (starTokens (unquote t.text)).length ↔ 1 < (starTokens (unquote u.text)).length)

instance (t u : FilterToken) : Decidable (Alike t u) :=
  decidable_of_iff
    (t.kind = u.kind ∧
      (t.kind = .number →
        (Param.ofNumber? t.text).isSome = true ∧ (Param.ofNumber? u.text).isSome = true) ∧
      (t.kind = .quoted →
        (1 < (starTokens (unquote t.text)).length ↔ 1 < (starTokens (unquote u.text)).length)))
    ⟨fun h => ⟨h.1, h.2.1, h.2.2⟩, fun h => ⟨h.kind, h.readable, h.stars⟩⟩

namespace InStep

theorem bind {α β : Type} {R : α → α → Prop} {S : β → β → Prop} {x y : Except Fault α}
    {f g : α → Except Fault β} (h : InStep R x y) (hfg : ∀ a b, R a b → InStep S (f a) (g b)) :
    InStep S (x >>= f) (y >>= g) := by
  cases h with
  | ok hab => exact hfg _ _ hab
  | fault he => exact .fault he

theorem map {α β : Type} {R : α → α → Prop} {S : β → β → Prop} {x y : Except Fault α}
    {f g : α → β} (h : InStep R x y) (hfg : ∀ a b, R a b → S (f a) (g b)) :
    InStep S (x.map f) (y.map g) := by
  cases h with
  | ok hab => exact .ok (hfg _ _ hab)
  | fault he => exact .fault he

/-- Both runs find that the words do not form an expression. -/
theorem invalid {α : Type} {R : α → α → Prop} (filter filter' : String) :
    InStep R (.error (.invalidExpression filter)) (.error (.invalidExpression filter')) :=
  .fault (.named filter filter')

end InStep

/-! ## Section 2: One operator and one operand -/

section operand
variable {key filter filter' : String} {negated : Bool} {t u : FilterToken}

theorem numberParam_inStep (h : Alike t u) (hk : t.kind = .number) :
    InStep (fun _ _ => True) (numberParam filter t) (numberParam filter' u) := by
  obtain ⟨ht, hu⟩ := h.readable hk
  obtain ⟨p, hp⟩ := Option.isSome_iff_exists.mp ht
  obtain ⟨q, hq⟩ := Option.isSome_iff_exists.mp hu
  have hnumber : numberParam filter t = .ok p := numberParam_ok_iff.mpr hp
  have hnumber' : numberParam filter' u = .ok q := numberParam_ok_iff.mpr hq
  rw [hnumber, hnumber']
  exact .ok trivial

theorem operandParam_inStep (h : Alike t u) {e f : Fault} (hef : e.SameVariant f) :
    InStep (fun _ _ => True) (operandParam filter e t) (operandParam filter' f u) := by
  have hku := h.kind
  unfold operandParam
  cases hk : t.kind with
  | number =>
    rw [← hku, hk]
    exact numberParam_inStep h hk
  | quoted =>
    rw [← hku, hk]
    exact .ok trivial
  | _ =>
    rw [← hku, hk]
    exact .fault hef

theorem equality_inStep (h : Alike t u) :
    InStep SameExpression (equality key filter negated t) (equality key filter' negated u) := by
  have hku := h.kind
  by_cases hk : t.kind = .quoted
  · -- both texts are split by stars, or both are not
    have hstars := h.stars hk
    rw [hk] at hku
    unfold equality
    simp only [hk, ← hku]
    by_cases hs : 1 < (starTokens (unquote t.text)).length
    · rw [if_pos hs, if_pos (hstars.mp hs)]
      exact .ok rfl
    · rw [if_neg hs, if_neg fun hs' => hs (hstars.mpr hs')]
      exact .ok rfl
  · rw [equality_plain hk, equality_plain (hku ▸ hk)]
    exact (operandParam_inStep h (.same _)).bind fun _ _ _ => .ok rfl

theorem comparison_inStep (h : Alike t u) (operator : String) :
    InStep SameExpression (comparison key filter operator negated t)
      (comparison key filter' operator negated u) := by
  unfold comparison
  cases negated with
  | true => exact .fault (.same _)
  | false => exact (operandParam_inStep h (.same _)).bind fun _ _ _ => .ok rfl

theorem search_inStep (h : Alike t u) : InStep SameExpression (search key t) (search key u) := by
  have hku := h.kind
  unfold search
  cases hk : t.kind with
  | number | quoted =>
    rw [← hku, hk]
    exact .ok rfl
  | _ =>
    rw [← hku, hk]
    exact .fault (.same _)

/-- An operator that stands before exactly one operand. -/
theorem one_inStep {R : Condition → Condition → Prop}
    {make make' : FilterToken → Except Fault Condition} {rest rest' : List FilterToken}
    (hmake : ∀ t u, Alike t u → InStep R (make t) (make' u)) :
    List.Forall₂ Alike rest rest' → InStep R
      (match rest with
        | [operand] => make operand
        | _ => .error (.invalidExpression filter))
      (match rest' with
        | [operand] => make' operand
        | _ => .error (.invalidExpression filter')) := by
  intro hrest
  cases hrest with
  | nil => exact .invalid _ _
  | cons ht hmore =>
    cases hmore with
    | nil => exact hmake _ _ ht
    | cons => exact .invalid _ _

end operand

/-! ## Section 3: Lists -/

section lists
variable {key filter filter' : String} {negated : Bool}

/-- Both lists are refused, or they have as many values. -/
theorem listParams_inStep {vs vs' : List FilterToken} (h : List.Forall₂ Alike vs vs') :
    InStep SameLength (listParams filter vs) (listParams filter' vs') := by
  fun_induction listParams filter vs generalizing vs' with
  | case1 v separator rest ih =>
    cases h with
    | cons hv hbehind =>
    cases hbehind with
    | @cons _ separator' _ rest' hseparator hrest =>
    have hkind := hseparator.kind
    rw [listParams]
    apply (operandParam_inStep hv (.named _ _)).bind
    intro p q _
    cases hs : separator.kind with
    | comma =>
      simp only [← hkind, hs]
      exact (ih hrest).bind fun ps qs hlength => .ok (congrArg Nat.succ hlength)
    | closeBracket =>
      simp only [← hkind, hs]
      -- nothing may stand behind the bracket
      cases hrest with
      | nil => exact .ok rfl
      | cons => exact .invalid _ _
    | _ =>
      simp only [← hkind, hs]
      exact .invalid _ _
  | case2 vs hshort =>
    have hshort' : listParams filter' vs' = .error (.invalidExpression filter') := by
      cases h with
      | nil => rfl
      | cons hv hbehind =>
        cases hbehind with
        | nil => rfl
        | cons => exact absurd rfl (hshort _ _ _)
    rw [hshort']
    exact .invalid _ _

theorem placeholders_eq {ps qs : List Param} (h : SameLength ps qs) :
    placeholders ps = placeholders qs := by
  have hmarks (ps : List Param) :
      (ps.map fun _ => "?") = List.replicate ps.length "?" := List.map_const' ..
  unfold placeholders
  rw [hmarks, hmarks, h]

theorem membership_inStep {rest rest' : List FilterToken} (h : List.Forall₂ Alike rest rest') :
    InStep SameExpression (membership key filter negated rest)
      (membership key filter' negated rest') := by
  cases h with
  | nil => exact .invalid _ _
  | @cons bracket bracket' vs vs' hbracket hvs =>
    have hkind := hbracket.kind
    unfold membership
    by_cases hb : bracket.kind = .openBracket
    · have hb' : bracket'.kind = .openBracket := hkind ▸ hb
      simp only [hb, hb', ne_eq, not_true_eq_false, if_false]
      apply (listParams_inStep hvs).bind
      intro ps qs hlength
      have htext := placeholders_eq hlength
      exact .ok (by simp only [SameExpression, htext])
    · have hb' : bracket'.kind ≠ .openBracket := hkind ▸ hb
      simp only [hb, hb', ne_eq, not_false_eq_true, if_true]
      exact .invalid _ _

end lists

/-! ## Section 4: Whole filters -/

section words
variable {key filter filter' : String}

/-- A negation reads and extends the expression, which is the same on both sides. -/
theorem negate_same {c d : Condition} (h : SameExpression c d) :
    SameExpression (negate key c) (negate key d) := by
  unfold SameExpression at h
  simp only [SameExpression, negate, h]

/-- **The parser in step**: words that are not told apart are accepted or refused alike, at
any depth of negation. -/
theorem ofWords_inStep :
    ∀ {words words' : List FilterToken} {negated : Bool}, List.Forall₂ Alike words words' →
      InStep SameExpression (ofWords key filter negated words)
        (ofWords key filter' negated words')
  | [], _, _, .nil => .invalid _ _
  | first :: rest, first' :: rest', negated, .cons hfirst hrest => by
    have hkind := hfirst.kind
    rw [ofWords.eq_def, ofWords.eq_def]
    cases hk : first.kind with
    | equalTo =>
      simp only [← hkind, hk]
      exact one_inStep (fun t u h => equality_inStep h) hrest
    | greaterThan | greaterOrEqual | lessThan | lessOrEqual =>
      simp only [← hkind, hk]
      exact one_inStep (fun t u h => comparison_inStep h _) hrest
    | like =>
      simp only [← hkind, hk]
      exact one_inStep (fun t u h => search_inStep h) hrest
    | inList =>
      simp only [← hkind, hk]
      exact membership_inStep hrest
    | number =>
      simp only [← hkind, hk]
      cases hrest with
      | nil => exact (numberParam_inStep hfirst hk).bind fun _ _ _ => .ok rfl
      | cons => exact .invalid _ _
    | negation =>
      simp only [← hkind, hk]
      cases hrest with
      | nil => exact .invalid _ _
      | @cons second second' _ _ hsecond hmore =>
        cases hmore with
        | nil => exact (operandParam_inStep hsecond (.named _ _)).bind fun _ _ _ => .ok rfl
        | cons hthird hmore =>
          by_cases hlike : second.kind = .like
          · simp only [hlike, ← hsecond.kind, if_true]
            exact .fault (.same _)
          · simp only [hlike, ← hsecond.kind, if_false]
            exact (ofWords_inStep (.cons hsecond (.cons hthird hmore))).map
              fun _ _ h => negate_same h
    | quoted | openBracket | closeBracket | comma =>
      simp only [← hkind, hk]
      exact .invalid _ _

theorem ofTokens_inStep {words words' : List FilterToken} (h : List.Forall₂ Alike words words') :
    InStep SameExpression (ofTokens key filter words) (ofTokens key filter' words') := by
  unfold ofTokens
  cases h with
  | nil => exact .ok rfl
  | cons hfirst hrest => exact ofWords_inStep (.cons hfirst hrest)

end words

/-- A filter that is bound as it is: it cannot be split, or it is not compound and cannot be
cut into words. -/
inductive Verbatim (value : String) : Prop
  | unsplit {e : ScanError} : splitTokens value = .error e → Verbatim value
  | noWords {tokens : List SplitToken} {e : ScanError} :
      splitTokens value = .ok tokens → Compound.ofTokens? tokens = none →
      filterTokens value = .error e → Verbatim value

theorem Verbatim.convert_eq {value : String} (h : Verbatim value) (key : String) :
    convert (.name key) value = .ok (literal key value) := by
  cases h with
  | unsplit hs => exact convert_ok_iff.mpr (.literal hs)
  | noWords hs hf ht => exact convert_ok_iff.mpr (.simple hs hf (.literal ht))

/-- **No operand reaches the expression.** Words that are not told apart, whatever their
texts, give one expression or faults of one variant; and filters that are bound as they
are, whatever they say, give one expression. -/
theorem expression_independent (key : String) :
    (∀ filter filter' words words', List.Forall₂ Alike words words' →
      (∃ c c', ofTokens key filter words = .ok c ∧ ofTokens key filter' words' = .ok c' ∧
        c.expression = c'.expression) ∨
      (∃ e e', ofTokens key filter words = .error e ∧ ofTokens key filter' words' = .error e' ∧
        e.SameVariant e')) ∧
    (∀ value value', Verbatim value → Verbatim value' →
      ∃ c c', convert (.name key) value = .ok c ∧ convert (.name key) value' = .ok c' ∧
        c.expression = c'.expression) := by
  constructor
  · intro filter filter' words words' h
    have hstep : InStep SameExpression (ofTokens key filter words) (ofTokens key filter' words') :=
      ofTokens_inStep h
    generalize ofTokens key filter words = x, ofTokens key filter' words' = y at hstep ⊢
    cases hstep with
    | ok hsame => exact Or.inl ⟨_, _, rfl, rfl, hsame⟩
    | fault hvariant => exact Or.inr ⟨_, _, rfl, rfl, hvariant⟩
  · intro value value' h h'
    exact ⟨_, _, h.convert_eq key, h'.convert_eq key, rfl⟩

/-- A negated pattern that reads like SQL itself, beside a plain one; and two filters that
are bound as they are, of which one cannot be split. -/
theorem expression_independent_negated_pattern :
    let words (pattern : String) : List FilterToken :=
      [⟨.negation, "!", default⟩, ⟨.equalTo, "=", default⟩, ⟨.quoted, pattern, default⟩]
    let plain := words "'ball*'"
    let hostile := words "'* or size not in(1); --'"
    List.Forall₂ Alike plain hostile ∧ Verbatim "Sample string" ∧ Verbatim "'abc" ∧
      ((∃ c c', ofTokens "size" "first" plain = .ok c ∧
          ofTokens "size" "second" hostile = .ok c' ∧ c.expression = c'.expression) ∨
        (∃ e e', ofTokens "size" "first" plain = .error e ∧
          ofTokens "size" "second" hostile = .error e' ∧ e.SameVariant e')) ∧
      ∃ c c', convert (.name "size") "Sample string" = .ok c ∧
        convert (.name "size") "'abc" = .ok c' ∧ c.expression = c'.expression := by
  intro words plain hostile
  have halike : List.Forall₂ Alike plain hostile := by decide +kernel
  have hwhole : splitTokens "Sample string" =
      .ok [⟨.operand, "Sample string", ⟨0, 13⟩⟩] := by decide +kernel
  have hwords : filterTokens "Sample string" = .error ⟨0, "Sample string"⟩ := by decide +kernel
  have hsplit : splitTokens "'abc" = .error ⟨0, "'abc"⟩ := by decide +kernel
  have hsample : Verbatim "Sample string" := .noWords hwhole rfl hwords
  have hquote : Verbatim "'abc" := .unsplit hsplit
  obtain ⟨hparser, hverbatim⟩ := expression_independent "size"
  exact ⟨halike, hsample, hquote, hparser "first" "second" plain hostile halike,
    hverbatim "Sample string" "'abc" hsample hquote⟩

end PropertyFilter
