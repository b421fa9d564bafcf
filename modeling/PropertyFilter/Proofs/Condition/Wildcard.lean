import PropertyFilter.Proofs.Condition.Meaning
import PropertyFilter.Proofs.Filter.Like

/-!
  # Stars in filters

  What the words of `~'s'`, `='s'` and `!='s'` say about a key, for every text `s` without a
  quote, the empty one included:

      ~'s'      key like ?         s without a star at either end, between two %
      ='s'      key like ?         s with a % for every star, if it has one and is not just *
                key = ?            s as it is otherwise
      !='s'     key not like ?     by the same test
                key != ?

  Main statements: the patterns that are bound mean what the stars say (`pattern_meaning`), and
  a star behind `=` is a wildcard unless the text is a single star (`equality_star`).
-/

namespace PropertyFilter

open Predicate

/-! ## Section 1: What words say -/

/-- The filter is made of words, and these say the condition `c` about the key. -/
def Says (key value : String) (c : Condition) : Prop :=
  ∃ tokens, filterTokens value = .ok tokens ∧ ofTokens key value tokens = .ok c

/-- Words say one thing. -/
theorem Says.unique {key value : String} {c d : Condition} (hc : Says key value c)
    (hd : Says key value d) : c = d := by
  obtain ⟨tokens, htokens, hc⟩ := hc
  obtain ⟨others, hothers, hd⟩ := hd
  obtain rfl := Except.ok.inj (htokens.symm.trans hothers)
  exact Except.ok.inj (hc.symm.trans hd)

/-- A text in quotes as a word. -/
def quotedPiece (s : String) : Piece FilterWord := ⟨.quoted, ("'" ++ s ++ "'").toList⟩

section quoted
variable {key s : String}

theorem quotedPiece_fits (hs : '\'' ∉ s.toList) :
    Fits (quotedPiece s).kind (quotedPiece s).chars := by
  have htext : ("'" ++ s ++ "'").toList = '\'' :: s.toList ++ ['\''] := by simp
  unfold quotedPiece
  rw [htext]
  exact .quoted hs

/-- The token of a text in quotes is spelled as it is written. -/
theorem quotedPiece_text (s : String) (offset : Nat) :
    ((quotedPiece s).toToken false offset).text = "'" ++ s ++ "'" :=
  String.ofList_toList

/-- What operators and a text in quotes derive is what the filter says that is written from
them. -/
theorem says_of_derives (ops : List FilterWord) (hs : '\'' ∉ s.toList)
    (hops : ∀ o ∈ ops, o.spelling?.isSome = true)
    (hsep : (ops.map FilterWord.piece ++ [quotedPiece s]).IsChain Separate) {value : String}
    (hvalue : value.toList =
      Piece.concat (ops.map FilterWord.piece) ++ ("'" ++ s ++ "'").toList) {c : Condition}
    (h : Derives key false (placed false 0 (ops.map FilterWord.piece ++ [quotedPiece s])) c) :
    Says key value c := by
  have hfits : ∀ p ∈ ops.map FilterWord.piece ++ [quotedPiece s], Fits p.kind p.chars := by
    intro p hp
    rcases List.mem_append.mp hp with hp | hp
    · obtain ⟨o, ho, rfl⟩ := List.mem_map.mp hp
      exact (IsWord.fixed (hops o ho)).fits
    · obtain rfl := List.mem_singleton.mp hp
      exact quotedPiece_fits hs
  have htext : Piece.concat (ops.map FilterWord.piece ++ [quotedPiece s]) = value.toList := by
    rw [hvalue, Piece.concat, List.flatMap_append, List.flatMap_singleton]
    rfl
  exact ⟨_, filterTokens_of_fits hfits hsep htext, ofTokens_ok_iff.mpr (Or.inr h)⟩

/-- **The words of `~'s'`.** -/
theorem says_search (key : String) (hs : '\'' ∉ s.toList) :
    Says key ("~" ++ ("'" ++ s ++ "'"))
      ⟨key ++ " like ?", [.text (containsPattern (starTokens s))]⟩ := by
  have hsep : [FilterWord.like.piece, quotedPiece s].IsChain Separate :=
    .cons_cons (show Separable .like .quoted by decide) (.singleton _)
  refine says_of_derives [.like] hs (by decide) hsep (String.toList_append ..) ?_
  have hvalue := boundValue?_quoted (t := (quotedPiece s).toToken false 1) rfl
    (quotedPiece_text s 1) .like
  exact .search rfl hvalue

/-- **The words of `='s'` and `!='s'`.** -/
theorem says_equality (key : String) (negated : Bool) (hs : '\'' ∉ s.toList) :
    Says key ((if negated then "!=" else "=") ++ ("'" ++ s ++ "'"))
      (equalityCondition key negated (equalityPattern? s) (.text s)) := by
  have hequal : [FilterWord.equalTo.piece, quotedPiece s].IsChain Separate :=
    .cons_cons (show Separable .equalTo .quoted by decide) (.singleton _)
  have hderives (o : FilterToken) (ho : o.kind = .equalTo) (offset : Nat) :=
    derives_equalityCondition key (t := (quotedPiece s).toToken false offset) ho
      (by rw [boundValue?_quoted rfl (quotedPiece_text s offset), boundText_equalTo])
      (hasPattern_quoted rfl (quotedPiece_text s offset))
  cases negated with
  | false =>
    refine says_of_derives [.equalTo] hs (by decide) hequal (String.toList_append ..) ?_
    exact (hderives _ rfl _).1
  | true =>
    have hsep : [FilterWord.negation.piece, FilterWord.equalTo.piece,
        quotedPiece s].IsChain Separate := .cons_cons (by decide) hequal
    refine says_of_derives [.negation, .equalTo] hs (by decide) hsep
      (String.toList_append ..) ?_
    exact (hderives _ rfl _).2 _ rfl

/-- The text has a pattern behind `=` if it has a star and is not just a star. -/
theorem equalityPattern?_cases (s : String) :
    equalityPattern? s =
      if '*' ∈ s.toList ∧ s ≠ "*" then some (String.ofList (percents s.toList)) else none := by
  have hstar : s.toList ≠ "*".toList ↔ s ≠ "*" := not_congr String.toList_inj
  rw [equalityPattern?_eq, show ['*'] = "*".toList from rfl]
  simp only [hstar]

end quoted

/-! ## Section 2: Patterns and stars -/

/-- A condition with a pattern is none without one. -/
theorem equalityCondition_like {key p : String} {negated : Bool} {pattern? : Option String}
    {value : Param} :
    equalityCondition key negated pattern? value =
        ⟨key ++ (if negated then " not like ?" else " like ?"), [.text p]⟩ ↔
      pattern? = some p := by
  cases pattern? with
  | some pattern => simp [equalityCondition]
  | none =>
    cases negated <;> simp [equalityCondition]

/-- **The patterns mean what the stars say.** The pattern behind `~` matches the texts with a
stretch that the text matches, each of its stars a `%`. Behind `=` and `!=` there is a pattern
if the text has a star and is not just a star, and it matches what the text matches with a `%`
for each star. -/
theorem pattern_meaning (key s : String) (hs : '\'' ∉ s.toList) :
    (∃ p, Says key ("~" ++ ("'" ++ s ++ "'")) ⟨key ++ " like ?", [.text p]⟩ ∧
      ∀ t, Like p.toList t ↔ ∃ u w v, t = u ++ w ++ v ∧ Like (percents s.toList) w) ∧
    ∀ negated : Bool,
      let binds (p : String) : Prop :=
        Says key ((if negated then "!=" else "=") ++ ("'" ++ s ++ "'"))
          ⟨key ++ (if negated then " not like ?" else " like ?"), [.text p]⟩
      ((∃ p, binds p) ↔ '*' ∈ s.toList ∧ s ≠ "*") ∧
        ∀ p, binds p → ∀ t, Like p.toList t ↔ Like (percents s.toList) t := by
  refine ⟨⟨_, says_search key hs, like_containing s⟩, ?_⟩
  intro negated binds
  have hbinds (p : String) : binds p ↔ equalityPattern? s = some p := by
    have hsaid := says_equality key negated hs
    constructor
    · intro h
      exact equalityCondition_like.mp (hsaid.unique h)
    · intro h
      rwa [equalityCondition_like.mpr h] at hsaid
  simp only [hbinds, equalityPattern?_cases]
  constructor
  · simp
  · intro p hp t
    obtain ⟨-, hp⟩ := Option.ite_none_right_eq_some.mp hp
    obtain rfl := Option.some.inj hp
    rw [String.toList_ofList]

/-- With `~'**a_*'` one finds `xaby`, and with `='**a_*'` one does not find `xa`. -/
theorem pattern_meaning_stars :
    (∃ p, Says "property" "~'**a_*'" ⟨"property like ?", [.text p]⟩ ∧
      Like p.toList ['x', 'a', 'b', 'y']) ∧
    ∃ p, Says "property" "='**a_*'" ⟨"property like ?", [.text p]⟩ ∧
      ¬ Like p.toList ['x', 'a'] := by
  obtain ⟨⟨p, hsaid, hp⟩, hequality⟩ := pattern_meaning "property" "**a_*" (by decide)
  obtain ⟨hbinds, hmeaning⟩ := hequality false
  obtain ⟨q, hq⟩ := hbinds.mpr (by decide)
  refine ⟨⟨p, hsaid, ?_⟩, q, hq, ?_⟩
  · exact (hp _).mpr ⟨[], ['x', 'a', 'b', 'y'], [], rfl, by decide⟩
  · rw [hmeaning q hq]
    decide

/-- **A star behind `=` is a wildcard unless it stands alone.** The filter `='s'` says
`key like ?` with a `%` for every star of `s` if `s` has a star and is not just a star, and
`key = ?` with `s` itself otherwise. The filter `!='s'` says the opposite by the same test. -/
theorem equality_star (key s : String) (hs : '\'' ∉ s.toList) (negated : Bool) :
    Says key ((if negated then "!=" else "=") ++ ("'" ++ s ++ "'"))
      (if '*' ∈ s.toList ∧ s ≠ "*" then
        ⟨key ++ (if negated then " not like ?" else " like ?"),
          [.text (String.ofList (percents s.toList))]⟩
      else ⟨key ++ (if negated then " != ?" else " = ?"), [.text s]⟩) := by
  have hsaid := says_equality key negated hs
  rw [equalityPattern?_cases] at hsaid
  by_cases hstar : '*' ∈ s.toList ∧ s ≠ "*"
  · rw [if_pos hstar] at hsaid ⊢
    exact hsaid
  · rw [if_neg hstar] at hsaid ⊢
    exact hsaid

/-- Both stars of `!='*a*'` become a `%`. -/
theorem equality_star_around :
    Says "property" "!='*a*'" ⟨"property not like ?", [.text "%a%"]⟩ :=
  equality_star "property" "*a*" (by decide) true

/-- The filter `='*'` has a star, and looks for the text of a single star all the same. -/
theorem equality_lone_star :
    '*' ∈ "*".toList ∧ Says "property" "='*'" ⟨"property = ?", [.text "*"]⟩ ∧
      ¬ Says "property" "='*'" ⟨"property like ?", [.text "%"]⟩ := by
  have hsaid := says_equality "property" false (s := "*") (by decide)
  rw [equalityPattern?_cases, if_neg (by decide)] at hsaid
  refine ⟨by decide, hsaid, ?_⟩
  intro hlike
  exact absurd (hsaid.unique hlike) (by decide)

end PropertyFilter
