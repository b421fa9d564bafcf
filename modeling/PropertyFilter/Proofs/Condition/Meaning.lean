import PropertyFilter.Proofs.Condition.Conversion
import PropertyFilter.Proofs.Filter.Simple
import PropertyFilter.Proofs.Filter.Stars
import PropertyFilter.Proofs.Predicate.Form

/-!
  # What simple filters mean

  A simple filter that is written out and converted gives its meaning:

      n                       key = ?
      = v      != v           key = ?           key != ?
                              key like ?        key not like ?      if v has stars
      > >= < <= v             key OP ?
      ~ v                     key like ?        cast(key as varchar(32)) like ?
      ! v                     key = !?
      in(v,...)   !in(v,...)  key in(?,...)     key not in(?,...)

  The values are those of the operands, in order: a text without its quotes, a number as
  an integer or a double precision number, and the pattern where the text has stars.

  Main statement: `convert_text`, of every key and every simple filter.
-/

namespace PropertyFilter

open Predicate Conversion

/-! ## Section 1: Meanings -/

namespace Operand

/-- The value of an operand. -/
def param : Operand → Param
  | number n => n.param
  | quoted s => .text s.content

/-- The pattern that an operand is behind `=`, if it is a text with a star and something
else: every star is a `%`. -/
def pattern? : Operand → Option String
  | number _ => none
  | quoted s =>
    if '*' ∈ s.content.toList ∧ s.content.toList ≠ ['*'] then
      some (String.ofList (percents s.content.toList))
    else none

/-- The pattern that an operand is behind `~`: a number as it is written, a text without a
star at either end and with a `%` for every other one. -/
def contained : Operand → String
  | number n => n.text
  | quoted s =>
    String.ofList (percents (withoutTrailingStar (withoutLeadingStar s.content.toList)))

end Operand

/-- What a simple filter says about a key. -/
def SimpleFilter.meaning (key : String) : SimpleFilter → Condition
  | bare n => ⟨key ++ " = ?", [n.param]⟩
  | equality negated v =>
    match v.pattern? with
    | some pattern => ⟨key ++ (if negated then " not like ?" else " like ?"), [.text pattern]⟩
    | none => ⟨key ++ (if negated then " != ?" else " = ?"), [v.param]⟩
  | comparison o v => ⟨key ++ " " ++ o.text ++ " ?", [v.param]⟩
  | search v =>
    let expression := match v with
      | .number _ => "cast(" ++ key ++ " as varchar(32)) like ?"
      | .quoted _ => key ++ " like ?"
    ⟨expression, [.text ("%" ++ v.contained ++ "%")]⟩
  | negatedValue v => ⟨key ++ " = !?", [v.param]⟩
  | membership negated first rest =>
    ⟨key ++ (if negated then " not in(" else " in(") ++
        ",".intercalate ((first :: rest).map fun _ => "?") ++ ")",
      (first :: rest).map Operand.param⟩

/-! ## Section 2: Values of operands -/

/-- `StandsFor t v`: the token is the operand as it is written. -/
structure StandsFor (t : FilterToken) (v : Operand) : Prop where
  kind : t.kind = v.kind
  text : t.text = v.text

theorem standsFor_word (v : Operand) (offset : Nat) :
    StandsFor (v.word.toToken false offset) v :=
  ⟨rfl, String.ofList_toList⟩

theorem unquote_quoted (s : String) : unquote ("'" ++ s ++ "'") = s := by
  have htext : ("'" ++ s ++ "'").toList = '\'' :: (s.toList ++ ['\'']) := by simp
  unfold unquote
  rw [htext]
  simp

/-- The test for stars is the one of the pattern. -/
theorem equalityPattern?_eq (s : String) :
    equalityPattern? s =
      if '*' ∈ s.toList ∧ s.toList ≠ ['*'] then some (String.ofList (percents s.toList))
      else none := by
  unfold equalityPattern?
  dsimp only
  by_cases hstars : '*' ∈ s.toList ∧ s.toList ≠ ['*']
  · rw [if_pos ((one_lt_length_starTokens s).mpr hstars), if_pos hstars]
    rw [← toList_wildcardPattern, String.ofList_toList]
  · rw [if_neg fun h => hstars ((one_lt_length_starTokens s).mp h), if_neg hstars]

theorem containsPattern_eq (s : String) :
    containsPattern (starTokens s) =
      "%" ++ String.ofList (percents (withoutTrailingStar (withoutLeadingStar s.toList))) ++
        "%" := by
  rw [← String.toList_inj, toList_containsPattern]
  simp

section quoted
variable {t : FilterToken} {s : String}

/-- A text in quotes is bound as the text that it is behind its operator. -/
theorem boundValue?_quoted (hkind : t.kind = .quoted) (htext : t.text = "'" ++ s ++ "'")
    (o : FilterWord) : boundValue? o t = some (.text (boundText o s)) := by
  unfold boundValue?
  rw [hkind, htext, unquote_quoted]

theorem hasPattern_quoted (hkind : t.kind = .quoted) (htext : t.text = "'" ++ s ++ "'") :
    hasPattern t = (equalityPattern? s).isSome := by
  unfold hasPattern
  rw [hkind, htext, unquote_quoted]
  rfl

/-- Behind `=` that is its pattern, if it has one, and the text itself otherwise. -/
theorem boundText_equalTo (s : String) :
    Param.text (boundText .equalTo s) = ((equalityPattern? s).map Param.text).getD (.text s) := by
  rw [boundText, if_neg (by decide), if_pos rfl]
  cases equalityPattern? s <;> rfl

end quoted

section operand
variable {t : FilterToken} {v : Operand}

theorem boundValue?_plain (h : StandsFor t v) {o : FilterWord} (hlike : o ≠ .like)
    (hequal : o ≠ .equalTo) : boundValue? o t = some v.param := by
  cases v with
  | number n =>
    unfold boundValue?
    rw [h.kind, h.text]
    show (if o = .like then _ else Param.ofNumber? n.text) = _
    rw [if_neg hlike, n.ofNumber?_text]
    rfl
  | quoted s =>
    rw [boundValue?_quoted h.kind h.text, boundText, if_neg hlike, if_neg hequal]
    rfl

/-- Behind `=` a text with stars is bound as a pattern. -/
theorem boundValue?_equalTo (h : StandsFor t v) :
    boundValue? .equalTo t = some ((v.pattern?.map Param.text).getD v.param) ∧
      hasPattern t = v.pattern?.isSome := by
  cases v with
  | number n =>
    unfold boundValue? hasPattern
    rw [h.kind, h.text]
    refine ⟨?_, rfl⟩
    show (if FilterWord.equalTo = .like then _ else Param.ofNumber? n.text) = _
    rw [if_neg (by decide), n.ofNumber?_text]
    rfl
  | quoted s =>
    have hpattern : equalityPattern? s.content = (Operand.quoted s).pattern? :=
      equalityPattern?_eq s.content
    rw [boundValue?_quoted h.kind h.text, hasPattern_quoted h.kind h.text, boundText_equalTo,
      hpattern]
    exact ⟨rfl, rfl⟩

/-- Behind `~` every operand is bound as a pattern. -/
theorem boundValue?_like (h : StandsFor t v) :
    boundValue? .like t = some (.text ("%" ++ v.contained ++ "%")) := by
  cases v with
  | number n =>
    unfold boundValue?
    rw [h.kind, h.text]
    rfl
  | quoted s =>
    rw [boundValue?_quoted h.kind h.text, boundText, if_pos rfl, containsPattern_eq]
    rfl

end operand

/-! ## Section 3: Derivations -/

theorem listDerives_words (v : Operand) (rest : List Operand) (offset : Nat) :
    ListDerives (placed false offset (listWords v rest)) ((v :: rest).map Operand.param) := by
  induction rest generalizing v offset with
  | nil =>
    have hv := boundValue?_plain (o := .inList) (standsFor_word v offset) (by decide) (by decide)
    exact .last hv rfl
  | cons w rest ih =>
    have hv := boundValue?_plain (o := .inList) (standsFor_word v offset) (by decide) (by decide)
    exact .more hv rfl (ih w _)

/-- What `=` or `!=` and an operand say about a key: they compare it with the pattern of the
operand, if it has one, and with its value otherwise. -/
def equalityCondition (key : String) (negated : Bool) (pattern? : Option String)
    (value : Param) : Condition :=
  match pattern? with
  | some pattern => ⟨key ++ (if negated then " not like ?" else " like ?"), [.text pattern]⟩
  | none => ⟨key ++ (if negated then " != ?" else " = ?"), [value]⟩

/-- This is what they derive, with a `!` in front or without one. -/
theorem derives_equalityCondition (key : String) {o t : FilterToken} {pattern? : Option String}
    {value : Param} (ho : o.kind = .equalTo)
    (hvalue : boundValue? .equalTo t = some ((pattern?.map Param.text).getD value))
    (hpattern : hasPattern t = pattern?.isSome) :
    Derives key false [o, t] (equalityCondition key false pattern? value) ∧
      ∀ n : FilterToken, n.kind = .negation →
        Derives key false [n, o, t] (equalityCondition key true pattern? value) := by
  have hplain : Derives key false [o, t] _ := .equality ho hvalue
  have hnegated (n : FilterToken) (hn : n.kind = .negation) : Derives key false [n, o, t] _ :=
    .negation hn (by simp [ho]) (.equality ho hvalue)
  cases pattern? with
  | some pattern =>
    have htext (negated : Bool) :
        equalityText key negated t = (if negated then "not" else key) ++ " like ?" := by
      rw [equalityText, hpattern]
      rfl
    rw [htext] at hplain hnegated
    rw [if_pos rfl, negate_like] at hnegated
    exact ⟨hplain, hnegated⟩
  | none =>
    have htext (negated : Bool) : equalityText key negated t = operatorText key negated "=" := by
      rw [equalityText, hpattern]
      rfl
    rw [htext] at hplain hnegated
    rw [negate_equal] at hnegated
    have hequal : operatorText key false "=" = key ++ " = ?" := by
      rw [← String.toList_inj]
      simp [operatorText]
    rw [hequal] at hplain
    exact ⟨hplain, hnegated⟩

theorem search_meaning (key : String) {t : FilterToken} {v : Operand} (h : StandsFor t v) :
    (SimpleFilter.search v).meaning key =
      ⟨searchText key t, [.text ("%" ++ v.contained ++ "%")]⟩ := by
  unfold searchText
  rw [h.kind]
  cases v with
  | number n => rfl
  | quoted s => rfl

theorem membership_meaning (key : String) (first : Operand) (rest : List Operand)
    {ps : List Param} (hps : ps = (first :: rest).map Operand.param) :
    (SimpleFilter.membership false first rest).meaning key = ⟨membershipText key false ps, ps⟩ ∧
      (SimpleFilter.membership true first rest).meaning key =
        negate key ⟨membershipText key true ps, ps⟩ := by
  have hplaceholders : placeholders ps = ",".intercalate ((first :: rest).map fun _ => "?") := by
    unfold placeholders
    rw [hps, List.map_map]
    rfl
  rw [negate_membership]
  subst hps
  unfold membershipText
  rw [hplaceholders]
  exact ⟨rfl, rfl⟩

/-- **The words of a simple filter derive its meaning.** -/
theorem SimpleFilter.derives (key : String) (f : SimpleFilter) :
    Derives key false (placed false 0 f.words) (f.meaning key) := by
  -- the values of plain operands, wherever in the text they stand
  have hplain (w : FilterWord) (hlike : w ≠ .like) (hequal : w ≠ .equalTo) (v : Operand)
      (offset : Nat) : boundValue? w (v.word.toToken false offset) = some v.param :=
    boundValue?_plain (standsFor_word v offset) hlike hequal
  cases f with
  | bare n => exact .number rfl (hplain .number (by decide) (by decide) _ _)
  | equality negated v =>
    cases negated with
    | false =>
      have ht := standsFor_word v (0 + Text.byteLength FilterWord.equalTo.piece.chars)
      obtain ⟨hvalue, hpattern⟩ := boundValue?_equalTo ht
      exact (derives_equalityCondition key rfl hvalue hpattern).1
    | true =>
      have ht := standsFor_word v (0 + Text.byteLength FilterWord.negation.piece.chars +
        Text.byteLength FilterWord.equalTo.piece.chars)
      obtain ⟨hvalue, hpattern⟩ := boundValue?_equalTo ht
      exact (derives_equalityCondition key rfl hvalue hpattern).2 _ rfl
  | comparison o v =>
    cases o with
    | greater => exact .comparison rfl rfl (hplain .greaterThan (by decide) (by decide) _ _)
    | greaterOrEqual =>
      exact .comparison rfl rfl (hplain .greaterOrEqual (by decide) (by decide) _ _)
    | less => exact .comparison rfl rfl (hplain .lessThan (by decide) (by decide) _ _)
    | lessOrEqual =>
      exact .comparison rfl rfl (hplain .lessOrEqual (by decide) (by decide) _ _)
  | search v =>
    have ht := standsFor_word v (0 + Text.byteLength FilterWord.like.piece.chars)
    rw [search_meaning key ht]
    exact .search rfl (boundValue?_like ht)
  | negatedValue v => exact .negatedValue rfl (hplain .negation (by decide) (by decide) _ _)
  | membership negated first rest =>
    cases negated with
    | false =>
      rw [(membership_meaning key first rest rfl).1]
      exact .membership rfl rfl (listDerives_words first rest _)
    | true =>
      rw [(membership_meaning key first rest rfl).2]
      exact .negation rfl (by decide) (.membership rfl rfl (listDerives_words first rest _))

/-! ## Section 4: Conversion -/

/-- **Conversion undoes writing**: a simple filter that is written out and converted gives
its meaning, whatever the key and whatever its quoted texts hold. -/
theorem convert_text (key : String) (f : SimpleFilter) :
    convert (.name key) f.text = .ok (f.meaning key) := by
  obtain ⟨tokens, hsplit, hsimple⟩ := f.splitTokens_text
  have hderives : ofTokens key f.text (placed false 0 f.words) = .ok (f.meaning key) :=
    ofTokens_ok_iff.mpr (Or.inr (f.derives key))
  have hwords : OperandConverts key f.text (f.meaning key) := .words f.filterTokens_text hderives
  exact convert_ok_iff.mpr (.simple hsplit hsimple hwords)

/-- Of the two stars the one at the front is left out. -/
example : (SimpleFilter.search (.quoted ⟨"*a*b", by decide, by decide⟩)).meaning "name" =
    ⟨"name like ?", [.text "%a%b%"]⟩ := by
  rfl

end PropertyFilter
