import Mathlib.Data.List.Infix
import PropertyFilter.Proofs.Predicate.Derivation

/-!
  # The form of predicates

  A predicate about a property has one of few forms, with the key as its one subject:

      key OP ?          for = != > >= < <=       key = !?
      key like ?        key not like ?           cast(key as varchar(32)) like ?
      key in(?,...)     key not in(?,...)

  Four of them are negated: what stands behind one `!` gives one of these. Each further `!`
  puts the key in front once more, so that the key is no longer the subject of one predicate:

      !=5      key != ?            !in(1)      key not in(?)
      !!=5     key !key != ?       !!in(1)     key key not in(?)

  Main statement: the expression of an accepted filter is such a predicate, with the key once
  more in front for every `!` but the first; so it is a single predicate just if there is one
  `!` at most (`ofTokens_expression`).
-/

namespace PropertyFilter.Predicate

/-! ## Section 1: Forms -/

/-- The operators that compare a property with one value. -/
def comparisons : List String := ["=", "!=", ">", ">=", "<", "<="]

/-- A number of placeholders with commas between them. -/
def marks (n : Nat) : String := ",".intercalate (List.replicate n "?")

/-- `IsPredicate key text`: the text is one predicate with the key as its subject. -/
inductive IsPredicate (key : String) : String → Prop
  | compared {operator : String} :
      operator ∈ comparisons → IsPredicate key (key ++ " " ++ operator ++ " ?")
  | negatedValue : IsPredicate key (key ++ " = !?")
  | like : IsPredicate key (key ++ " like ?")
  | notLike : IsPredicate key (key ++ " not like ?")
  | textLike : IsPredicate key ("cast(" ++ key ++ " as varchar(32)) like ?")
  | inList (n : Nat) : IsPredicate key (key ++ " in(" ++ marks (n + 1) ++ ")")
  | notInList (n : Nat) : IsPredicate key (key ++ " not in(" ++ marks (n + 1) ++ ")")

/-- `NegatedTail text`: what stands behind the key in a negated predicate. -/
inductive NegatedTail : String → Prop
  | unequal : NegatedTail " != ?"
  | value : NegatedTail " = !?"
  | notLike : NegatedTail " not like ?"
  | notInList (n : Nat) : NegatedTail (" not in(" ++ marks (n + 1) ++ ")")

theorem NegatedTail.isPredicate {tail : String} (h : NegatedTail tail) (key : String) :
    IsPredicate key (key ++ tail) := by
  cases h with
  | unequal =>
    have hform : IsPredicate key (key ++ " " ++ "!=" ++ " ?") := .compared (by decide)
    simpa [String.append_assoc] using hform
  | value => exact .negatedValue
  | notLike => exact .notLike
  | notInList n =>
    rw [← String.append_assoc, ← String.append_assoc]
    exact .notInList n

/-- Does a predicate say `not` itself? -/
def saysNot (text : String) : Bool := occursIn "not like " text || occursIn "not in" text

/-- The key in front of a predicate, a number of times: each time with a sign behind it,
unless the predicate says `not` itself. -/
def subjects (key text : String) (n : Nat) : String :=
  String.join (List.replicate n (key ++ " " ++ if saysNot text then "" else "!"))

/-- The number of negations that a filter begins with. -/
def leadingNegations (words : List FilterToken) : Nat :=
  (words.takeWhile fun t => t.kind = .negation).length

theorem subjects_succ (key text : String) (n : Nat) :
    subjects key text (n + 1) =
      key ++ " " ++ (if saysNot text then "" else "!") ++ subjects key text n := by
  rw [subjects, List.replicate_succ, String.join_cons, subjects]

theorem placeholders_eq_marks (params : List Param) : placeholders params = marks params.length := by
  rw [placeholders, marks, List.map_const']

theorem leadingNegations_of_ne {t : FilterToken} (words : List FilterToken)
    (h : t.kind ≠ .negation) : leadingNegations (t :: words) = 0 := by
  simp [leadingNegations, h]

theorem leadingNegations_negation {t : FilterToken} (words : List FilterToken)
    (h : t.kind = .negation) : leadingNegations (t :: words) = leadingNegations words + 1 := by
  simp [leadingNegations, h]

/-! ## Section 2: One negation -/

/-- A predicate that says `not` itself is not given a sign. -/
theorem negate_unsigned {key : String} {c : Condition}
    (h : (occursIn "not like " c.expression || occursIn "not in" c.expression) = true) :
    negate key c = ⟨key ++ " " ++ c.expression, c.params⟩ := by
  unfold negate
  simp only [h, if_true]
  rw [String.append_empty]

/-- A negated pattern says `not` itself. -/
theorem negate_like (key : String) (ps : List Param) :
    negate key ⟨"not" ++ " like ?", ps⟩ = ⟨key ++ " not like ?", ps⟩ := by
  have hnot : (occursIn "not like " ("not" ++ " like ?") ||
      occursIn "not in" ("not" ++ " like ?")) = true := by
    decide
  rw [negate_unsigned hnot, Condition.mk.injEq, ← String.toList_inj]
  simp

theorem negate_equal (key : String) (ps : List Param) :
    negate key ⟨operatorText key true "=", ps⟩ = ⟨key ++ " != ?", ps⟩ := by
  have htext : operatorText key true "=" = "= ?" := rfl
  have hlike : occursIn "not like " "= ?" = false := by decide
  have hin : occursIn "not in" "= ?" = false := by decide
  unfold negate
  simp only [htext, hlike, hin, Bool.or_self]
  rw [Condition.mk.injEq, ← String.toList_inj]
  simp

/-- A negated list says `not` itself. -/
theorem negate_membership (key : String) (params : List Param) :
    negate key ⟨membershipText key true params, params⟩ =
      ⟨key ++ " not in(" ++ placeholders params ++ ")", params⟩ := by
  have hnot : occursIn "not in" (membershipText key true params) = true := by
    rw [occursIn_iff]
    refine ⟨[], '(' :: (placeholders params).toList ++ [')'], ?_⟩
    simp [membershipText]
  rw [negate_unsigned (by simp [hnot]), Condition.mk.injEq, ← String.toList_inj]
  simp [membershipText]

/-- A list has at least one value. -/
theorem ListDerives.exists_marks {vs : List FilterToken} {ps : List Param}
    (h : ListDerives vs ps) : ∃ n, placeholders ps = marks (n + 1) := by
  cases h with
  | last => exact ⟨0, placeholders_eq_marks _⟩
  | more => exact ⟨_, placeholders_eq_marks _⟩

theorem isPredicate_equalityText (key : String) (v : FilterToken) :
    IsPredicate key (equalityText key false v) := by
  unfold equalityText
  by_cases hpattern : hasPattern v = true
  · rw [if_pos hpattern]
    exact .like
  · rw [if_neg hpattern]
    have htext : operatorText key false "=" = key ++ " " ++ "=" ++ " ?" := rfl
    rw [htext]
    exact .compared (by decide)

theorem isPredicate_searchText (key : String) (v : FilterToken) :
    IsPredicate key (searchText key v) := by
  unfold searchText
  by_cases hk : v.kind = .number
  · rw [if_pos hk]
    exact .textLike
  · rw [if_neg hk]
    exact .like

/-- **Without a negation** the words of a filter say one predicate. -/
theorem Derives.isPredicate {key : String} {words : List FilterToken} {c : Condition}
    (h : Derives key false words c) (hnone : leadingNegations words = 0) :
    IsPredicate key c.expression := by
  cases h with
  | equality => exact isPredicate_equalityText key _
  | @comparison o v operator p ho hop =>
    have hordering : ∀ w : FilterWord, w.isOrdering = true →
        ∀ operator, w.sqlOperator? = some operator → operator ∈ comparisons := by
      intro w hw operator hop
      cases w with
      | greaterThan | greaterOrEqual | lessThan | lessOrEqual =>
        cases hop
        decide
      | _ => cases hw
    exact .compared (hordering o.kind ho operator hop)
  | search => exact isPredicate_searchText key _
  | membership _ _ hvs =>
    obtain ⟨n, hmarks⟩ := hvs.exists_marks
    show IsPredicate key (membershipText key false _)
    rw [membershipText, hmarks]
    exact .inList n
  | number =>
    have hform : IsPredicate key (key ++ " " ++ "=" ++ " ?") := .compared (by decide)
    simpa [String.append_assoc] using hform
  | negatedValue hn => simp [leadingNegations_negation _ hn] at hnone
  | negation hn => simp [leadingNegations_negation _ hn] at hnone

/-- **Behind one negation** the words of a filter say one negated predicate, with one tail for
all keys: a lone value and a search never stand there. -/
theorem Derives.negatedTail {key : String} {words : List FilterToken} {c : Condition}
    (h : Derives key true words c) (hnone : leadingNegations words = 0)
    (hlength : 2 ≤ words.length) (hlike : ∀ first ∈ words.head?, first.kind ≠ .like) :
    ∃ tail, NegatedTail tail ∧
      ∀ other, ∃ d, Derives other true words d ∧ negate other d = ⟨other ++ tail, c.params⟩ := by
  cases h with
  | @equality _ o v p ho hv =>
    by_cases hpattern : hasPattern v = true
    · refine ⟨_, .notLike, fun other => ⟨_, .equality ho hv, ?_⟩⟩
      rw [equalityText, if_pos hpattern]
      exact negate_like other _
    · refine ⟨_, .unequal, fun other => ⟨_, .equality ho hv, ?_⟩⟩
      rw [equalityText, if_neg hpattern]
      exact negate_equal other _
  | search ho => exact absurd ho (hlike _ rfl)
  | @membership _ _ _ _ ps hw hb hvs =>
    obtain ⟨n, hmarks⟩ := hvs.exists_marks
    refine ⟨_, .notInList n, fun other => ⟨_, .membership hw hb hvs, ?_⟩⟩
    rw [negate_membership, hmarks]
    simp only [String.append_assoc]
  | number => simp at hlength
  | negatedValue hn => simp [leadingNegations_negation _ hn] at hnone
  | negation hn => simp [leadingNegations_negation _ hn] at hnone

/-! ## Section 3: Many negations -/

/-- What occurs in a text and does not hold one of its characters is on one side of it. -/
theorem infix_of_separator {part as bs : List Char} {x : Char} (hx : x ∉ part)
    (h : part <:+: as ++ x :: bs) : part <:+: as ∨ part <:+: bs := by
  obtain ⟨front, back, htext⟩ := h
  rcases List.append_eq_append_iff.mp htext with ⟨more, has, -⟩ | ⟨more, hfront, hback⟩
  · exact Or.inl ⟨front, more, has.symm⟩
  · cases more with
    | nil =>
      rw [List.append_nil] at hfront
      exact Or.inl ⟨front, [], by rw [List.append_nil, hfront]⟩
    | cons y more =>
      obtain ⟨rfl, rfl⟩ := List.cons.inj hback
      rcases List.append_eq_append_iff.mp hfront with ⟨mid, -, hpart⟩ | ⟨mid, -, hpart⟩
      · exact absurd (by simp [hpart]) hx
      · cases mid with
        | nil =>
          have hmem : x ∈ [] ++ part := hpart ▸ List.mem_cons_self ..
          exact absurd hmem hx
        | cons z mid =>
          obtain ⟨-, rfl⟩ := List.cons.inj hpart
          exact Or.inr ⟨mid, back, rfl⟩

/-- A part without a sign that occurs behind the subjects occurs in the predicate. -/
theorem occursIn_subjects {part key text : String} (hpart : '!' ∉ part.toList)
    (hkey : (key ++ " ").toList <+: text.toList) (hnot : saysNot text = false) (n : Nat) :
    occursIn part (subjects key text n ++ text) = occursIn part text := by
  rw [Bool.eq_iff_iff, occursIn_iff, occursIn_iff]
  constructor
  · intro h
    induction n with
    | zero => simpa [subjects] using h
    | succ n ih =>
      have htext : (subjects key text (n + 1) ++ text).toList =
          (key ++ " ").toList ++ '!' :: (subjects key text n ++ text).toList := by
        simp [subjects_succ, hnot]
      rw [htext] at h
      rcases infix_of_separator hpart h with hfront | hbehind
      · -- the predicate begins with the key and the space, too
        exact hfront.trans hkey.isInfix
      · exact ih hbehind
  · intro h
    rw [String.toList_append]
    exact h.trans (List.suffix_append _ _).isInfix

/-- What says `not` says it behind any text. -/
theorem saysNot_append {back : String} (h : saysNot back = true) (front : String) :
    saysNot (front ++ back) = true := by
  unfold saysNot at h ⊢
  rw [Bool.or_eq_true, occursIn_iff, occursIn_iff] at h ⊢
  rw [String.toList_append]
  have hbehind := (List.suffix_append front.toList back.toList).isInfix
  rcases h with hlike | hin
  · exact Or.inl (hlike.trans hbehind)
  · exact Or.inr (hin.trans hbehind)

/-- The subjects in front of a predicate do not change whether it says `not`. -/
theorem saysNot_subjects {key text : String} (hkey : (key ++ " ").toList <+: text.toList)
    (n : Nat) : saysNot (subjects key text n ++ text) = saysNot text := by
  cases hnot : saysNot text with
  | false =>
    rw [← hnot]
    unfold saysNot
    rw [occursIn_subjects (by decide) hkey hnot, occursIn_subjects (by decide) hkey hnot]
  | true => exact saysNot_append hnot _

/-- One more negation puts the key in front once more. -/
theorem negate_subjects {key text : String} (hkey : (key ++ " ").toList <+: text.toList)
    (n : Nat) (ps : List Param) :
    negate key ⟨subjects key text n ++ text, ps⟩ = ⟨subjects key text (n + 1) ++ text, ps⟩ := by
  have hmention : (occursIn "not like " (subjects key text n ++ text) ||
      occursIn "not in" (subjects key text n ++ text)) = saysNot text := saysNot_subjects hkey n
  unfold negate
  simp only [hmention, subjects_succ, String.append_assoc]

theorem NegatedTail.key_prefix {tail : String} (h : NegatedTail tail) (key : String) :
    (key ++ " ").toList <+: (key ++ tail).toList := by
  rw [String.toList_append, String.toList_append, List.prefix_append_right_inj]
  cases h with
  | unequal | value | notLike => decide
  | notInList n =>
    rw [String.toList_append, String.toList_append, List.append_assoc]
    exact ⟨"not in(".toList ++ _, rfl⟩

/-- **Behind any number of negations** there is one negated predicate, and the key is put in
front of it once for each negation but the first. The tail is the same for all keys. -/
theorem Derives.exists_subjects {key : String} {negated : Bool} {words : List FilterToken}
    {c : Condition} (h : Derives key negated words c) {n : Nat}
    (hn : leadingNegations words = n + 1) :
    ∃ tail, NegatedTail tail ∧ ∀ other, Derives other negated words
      ⟨subjects other (other ++ tail) n ++ (other ++ tail), c.params⟩ := by
  induction h generalizing n with
  | equality ho | search ho | membership ho =>
    rw [leadingNegations_of_ne _ (by simp [ho])] at hn
    cases hn
  | number hk =>
    rw [leadingNegations_of_ne _ (by simp [hk])] at hn
    cases hn
  | @comparison o v operator p ho =>
    have hne : o.kind ≠ .negation := FilterWord.ne_of_test FilterWord.isOrdering ho rfl
    rw [leadingNegations_of_ne _ hne] at hn
    cases hn
  | @negatedValue _ _ v p hk hv =>
    -- the value behind the negation is none itself
    have hvalue : v.kind ≠ .negation := by
      intro hv'
      simp [boundValue?, hv'] at hv
    rw [leadingNegations_negation _ hk, leadingNegations_of_ne _ hvalue] at hn
    obtain rfl : n = 0 := by omega
    refine ⟨_, .value, fun other => ?_⟩
    simpa [subjects] using Derives.negatedValue hk hv
  | @negation negated front second third more c hk hsecond hinner ih =>
    rw [leadingNegations_negation _ hk] at hn
    have hinside : leadingNegations (second :: third :: more) = n := by omega
    cases n with
    | zero =>
      obtain ⟨tail, htail, hnegate⟩ :=
        hinner.negatedTail hinside (by simp) (by simpa using hsecond)
      refine ⟨tail, htail, fun other => ?_⟩
      obtain ⟨d, hd, hcondition⟩ := hnegate other
      have hbehind : Derives other negated (front :: second :: third :: more) (negate other d) :=
        .negation hk hsecond hd
      rw [hcondition] at hbehind
      simpa [subjects, negate] using hbehind
    | succ n =>
      obtain ⟨tail, htail, hinside⟩ := ih hinside
      refine ⟨tail, htail, fun other => ?_⟩
      rw [← negate_subjects (htail.key_prefix other)]
      exact .negation hk hsecond (hinside other)

/-- What a filter says about its key behind negations. -/
theorem Derives.expression_eq_subjects {key : String} {negated : Bool} {words : List FilterToken}
    {c : Condition} (h : Derives key negated words c) {n : Nat}
    (hn : leadingNegations words = n + 1) :
    ∃ tail, NegatedTail tail ∧ c.expression = subjects key (key ++ tail) n ++ (key ++ tail) := by
  obtain ⟨tail, htail, hforms⟩ := h.exists_subjects hn
  exact ⟨tail, htail, congrArg Condition.expression (h.unique (hforms key))⟩

/-! ## Section 4: One predicate or several -/

/-- What stands behind the key and a space in a predicate that is no list. -/
def plainEnds : List String :=
  ["= ?", "!= ?", "> ?", ">= ?", "< ?", "<= ?", "= !?", "like ?", "not like ?"]

/-- What is in front of the values of a list, behind the key and a space. -/
def listFronts : List String := ["in(", "not in("]

/-- What stands behind the key when its text form is searched. -/
def castEnd : String := " as varchar(32)) like ?"

/-- A list of values, with what is in front of them. -/
def listEnd (front : String) (n : Nat) : String := front ++ marks n ++ ")"

/-- A predicate is the key and one of these ends, or has the key in brackets. -/
theorem IsPredicate.exists_end {key text : String} (h : IsPredicate key text) :
    (∃ plain ∈ plainEnds, text = key ++ " " ++ plain) ∨
      (∃ front ∈ listFronts, ∃ n, text = key ++ " " ++ listEnd front n) ∨
      text = "cast(" ++ key ++ castEnd := by
  cases h with
  | @compared operator hoperator =>
    have hends : ∀ operator ∈ comparisons, operator ++ " ?" ∈ plainEnds := by decide
    exact Or.inl ⟨_, hends operator hoperator, by simp only [String.append_assoc]⟩
  | negatedValue => exact Or.inl ⟨"= !?", by decide, by simp [String.append_assoc]⟩
  | like => exact Or.inl ⟨"like ?", by decide, by simp [String.append_assoc]⟩
  | notLike => exact Or.inl ⟨"not like ?", by decide, by simp [String.append_assoc]⟩
  | textLike => exact Or.inr (Or.inr rfl)
  | inList n =>
    refine Or.inr (Or.inl ⟨"in(", by decide, n + 1, ?_⟩)
    simp [← String.toList_inj, listEnd]
  | notInList n =>
    refine Or.inr (Or.inl ⟨"not in(", by decide, n + 1, ?_⟩)
    simp [← String.toList_inj, listEnd]

/-- There is no space among placeholders. -/
theorem space_notMem_marks (n : Nat) : ' ' ∉ (marks n).toList := by
  match n with
  | 0 => decide
  | 1 => decide
  | n + 2 =>
    have htext : marks (n + 2) = "?" ++ "," ++ marks (n + 1) := by
      rw [marks, List.replicate_succ, List.replicate_succ, String.intercalate_cons_cons, marks,
        List.replicate_succ]
    have ih := space_notMem_marks (n + 1)
    rw [htext]
    simpa using ih

theorem getLast?_listEnd (front : String) (n : Nat) :
    (listEnd front n).toList.getLast? = some ')' := by
  simp [listEnd]

theorem count_listEnd (front : String) (n : Nat) :
    (listEnd front n).toList.count ' ' = front.toList.count ' ' := by
  have hmarks : (marks n).toList.count ' ' = 0 := List.count_eq_zero.mpr (space_notMem_marks n)
  simp [listEnd, hmarks]

/-- A text that ends in one character is not at the end of a text that ends in another. -/
theorem not_suffix_of_getLast {as bs : List Char} {x y : Char} (ha : as.getLast? = some x)
    (hb : bs.getLast? = some y) (hne : x ≠ y) : ¬as <:+ bs := by
  rintro ⟨front, rfl⟩
  rw [List.getLast?_append, ha] at hb
  exact hne (Option.some.inj hb)

/-- A tail that no predicate ends with behind the key and a space. -/
structure EndsNone (tail : String) : Prop where
  plain : ∀ plain ∈ plainEnds, ¬tail.toList <:+ plain.toList
  list : ∀ front ∈ listFronts, ∀ n, ¬tail.toList <:+ (listEnd front n).toList
  cast : ¬tail.toList <:+ castEnd.toList
  cast_longer : ¬castEnd.toList <:+ tail.toList

theorem endsNone_plain {tail : String} (h : tail ∈ [" != ?", " = !?", " not like ?"]) :
    EndsNone tail := by
  have hends : ∀ tail ∈ [" != ?", " = !?", " not like ?"],
      tail.toList.getLast? = some '?' ∧ (∀ plain ∈ plainEnds, ¬tail.toList <:+ plain.toList) ∧
        ¬tail.toList <:+ castEnd.toList ∧ ¬castEnd.toList <:+ tail.toList := by
    decide
  obtain ⟨hlast, hplain, hcast, hcast'⟩ := hends tail h
  -- a list ends in a bracket
  have hlist : ∀ front ∈ listFronts, ∀ n, ¬tail.toList <:+ (listEnd front n).toList :=
    fun front _ n => not_suffix_of_getLast hlast (getLast?_listEnd front n) (by decide)
  exact ⟨hplain, hlist, hcast, hcast'⟩

theorem endsNone_list (m : Nat) : EndsNone (listEnd " not in(" m) where
  plain := by
    intro plain hplain
    have hends : ∀ plain ∈ plainEnds, plain.toList.getLast? = some '?' := by decide
    exact not_suffix_of_getLast (getLast?_listEnd _ m) (hends plain hplain) (by decide)
  list := by
    -- it has two spaces, and a list has one at most behind that of the key
    intro front hfront n hsuffix
    have hcount : (listEnd " not in(" m).toList.count ' ' ≤ (listEnd front n).toList.count ' ' :=
      hsuffix.sublist.count_le ' '
    have htwo : (" not in(" : String).toList.count ' ' = 2 := by decide
    have hone : ∀ front ∈ listFronts, front.toList.count ' ' ≤ 1 := by decide
    have hfew := hone front hfront
    rw [count_listEnd, count_listEnd, htwo] at hcount
    omega
  cast := by
    have hcast : castEnd.toList.getLast? = some '?' := by decide
    exact not_suffix_of_getLast (getLast?_listEnd _ m) hcast (by decide)
  cast_longer := by
    have hcast : castEnd.toList.getLast? = some '?' := by decide
    exact not_suffix_of_getLast hcast (getLast?_listEnd _ m) (by decide)

/-- A negated tail begins with a space of its own. -/
theorem NegatedTail.endsNone {tail : String} (h : NegatedTail tail) : EndsNone tail := by
  cases h with
  | unequal | value | notLike => exact endsNone_plain (by decide)
  | notInList n => exact endsNone_list (n + 1)

/-- **Several negations** do not say one predicate. -/
theorem not_isPredicate_of_subjects {key tail : String} (h : NegatedTail tail) (n : Nat) :
    ¬IsPredicate key (subjects key (key ++ tail) (n + 1) ++ (key ++ tail)) := by
  intro hform
  -- what is behind the first key and its space ends with the tail
  obtain ⟨front, hfront⟩ : ∃ front : List Char,
      (subjects key (key ++ tail) (n + 1) ++ (key ++ tail)).toList =
        (key ++ " ").toList ++ (front ++ tail.toList) := by
    refine ⟨((if saysNot (key ++ tail) then "" else "!") ++
      subjects key (key ++ tail) n ++ key).toList, ?_⟩
    simp [subjects_succ]
  have hbehind {text : String} (htext : subjects key (key ++ tail) (n + 1) ++ (key ++ tail) =
      key ++ " " ++ text) : tail.toList <:+ text.toList := by
    rw [htext, String.toList_append] at hfront
    exact ⟨front, (List.append_cancel_left hfront).symm⟩
  rcases hform.exists_end with ⟨plain, hmem, htext⟩ | ⟨listFront, hmem, m, htext⟩ | htext
  · exact h.endsNone.plain plain hmem (hbehind htext)
  · exact h.endsNone.list listFront hmem m (hbehind htext)
  · -- of two ends of one text, one is at the end of the other
    have htail : tail.toList <:+ (subjects key (key ++ tail) (n + 1) ++ (key ++ tail)).toList :=
      ⟨(key ++ " ").toList ++ front, by rw [hfront, List.append_assoc]⟩
    have hend : castEnd.toList <:+
        (subjects key (key ++ tail) (n + 1) ++ (key ++ tail)).toList :=
      ⟨("cast(" ++ key).toList, by rw [htext, ← String.toList_append]⟩
    rcases List.suffix_or_suffix_of_suffix htail hend with hsuffix | hsuffix
    · exact h.endsNone.cast hsuffix
    · exact h.endsNone.cast_longer hsuffix

/-! ## Section 5: Expressions of accepted filters -/

theorem IsPredicate.ne_empty {key text : String} (h : IsPredicate key text) : text ≠ "" := by
  intro hempty
  rw [← String.toList_inj] at hempty
  cases h with
  | _ => simp at hempty

/-- The words of a filter say one predicate, with a subject in front of it for each negation
but the first. -/
theorem Derives.exists_predicate {key : String} {words : List FilterToken} {c : Condition}
    (h : Derives key false words c) :
    ∃ text, IsPredicate key text ∧
      c.expression = subjects key text (leadingNegations words - 1) ++ text := by
  cases hn : leadingNegations words with
  | zero =>
    refine ⟨c.expression, h.isPredicate hn, ?_⟩
    simp [subjects]
  | succ n =>
    obtain ⟨tail, htail, hexpression⟩ := h.expression_eq_subjects hn
    exact ⟨key ++ tail, htail.isPredicate key, hexpression⟩

theorem Derives.expression_ne_empty {key : String} {words : List FilterToken} {c : Condition}
    (h : Derives key false words c) : c.expression ≠ "" := by
  obtain ⟨text, hform, hexpression⟩ := h.exists_predicate
  intro hempty
  rw [hexpression, String.append_eq_empty_iff] at hempty
  exact hform.ne_empty hempty.2

/-- They say that predicate and nothing else just if there is one negation at most. -/
theorem Derives.isPredicate_iff {key : String} {words : List FilterToken} {c : Condition}
    (h : Derives key false words c) :
    IsPredicate key c.expression ↔ leadingNegations words ≤ 1 := by
  cases hn : leadingNegations words with
  | zero => exact ⟨fun _ => Nat.zero_le _, fun _ => h.isPredicate hn⟩
  | succ n =>
    obtain ⟨tail, htail, hexpression⟩ := h.expression_eq_subjects hn
    rw [hexpression]
    cases n with
    | zero =>
      have hone : subjects key (key ++ tail) 0 ++ (key ++ tail) = key ++ tail := by
        simp [subjects]
      rw [hone]
      exact ⟨fun _ => Nat.le_refl _, fun _ => htail.isPredicate key⟩
    | succ n =>
      constructor
      · intro hform
        exact absurd hform (not_isPredicate_of_subjects htail n)
      · intro hle
        omega

/-- The condition of no words is empty, and that of words never is. -/
theorem ofTokens_expression_eq_empty {key filter : String} {words : List FilterToken}
    {c : Condition} (h : ofTokens key filter words = .ok c) :
    c.expression = "" ↔ words = [] := by
  rcases ofTokens_ok_iff.mp h with ⟨rfl, rfl⟩ | hd
  · exact ⟨fun _ => rfl, fun _ => rfl⟩
  · constructor
    · intro hempty
      exact absurd hempty hd.expression_ne_empty
    · rintro rfl
      cases hd

/-- **The form of expressions.** No words say the empty expression. All others say a predicate
with the key as its subject, and the key once more in front of it for every negation that the
filter begins with, the first one left out; so they say one predicate just if there is one
negation at most. -/
theorem ofTokens_expression {key filter : String} {words : List FilterToken} {c : Condition}
    (h : ofTokens key filter words = .ok c) :
    (c.expression = "" ↔ words = []) ∧
      (words ≠ [] →
        (∃ text, IsPredicate key text ∧
          c.expression = subjects key text (leadingNegations words - 1) ++ text) ∧
        (IsPredicate key c.expression ↔ leadingNegations words ≤ 1)) := by
  refine ⟨ofTokens_expression_eq_empty h, ?_⟩
  intro hne
  have hd : Derives key false words c :=
    (ofTokens_ok_iff.mp h).resolve_left fun hnil => hne hnil.1
  exact ⟨hd.exists_predicate, hd.isPredicate_iff⟩

/-- Three negations and a list: the key is there three times, and there is no sign. -/
theorem ofTokens_expression_triple_negation :
    let words : List FilterToken :=
      [⟨.negation, "!", ⟨0, 1⟩⟩, ⟨.negation, "!", ⟨1, 2⟩⟩, ⟨.negation, "!", ⟨2, 3⟩⟩,
        ⟨.inList, "in", ⟨3, 5⟩⟩, ⟨.openBracket, "(", ⟨5, 6⟩⟩, ⟨.number, "7", ⟨6, 7⟩⟩,
        ⟨.closeBracket, ")", ⟨7, 8⟩⟩]
    let c : Condition := ⟨"size size size not in(?)", [.int 7]⟩
    ofTokens "size" "!!!in(7)" words = .ok c ∧ words ≠ [] ∧ leadingNegations words = 3 ∧
      (∃ text, IsPredicate "size" text ∧ c.expression = subjects "size" text 2 ++ text) ∧
      ¬IsPredicate "size" c.expression := by
  intro words c
  have hok : ofTokens "size" "!!!in(7)" words = .ok c := by decide +kernel
  have hne : words ≠ [] := by simp [words]
  have hthree : leadingNegations words = 3 := by decide
  obtain ⟨hform, hsingle⟩ := (ofTokens_expression hok).2 hne
  rw [hthree] at hform hsingle
  exact ⟨hok, hne, hthree, hform, fun h => absurd (hsingle.mp h) (by decide)⟩

/-- Two negations put the key in front of a predicate about it. -/
theorem ofTokens_double_negation :
    let words : List FilterToken :=
      [⟨.negation, "!", ⟨0, 1⟩⟩, ⟨.negation, "!", ⟨1, 2⟩⟩, ⟨.equalTo, "=", ⟨2, 3⟩⟩,
        ⟨.number, "5", ⟨3, 4⟩⟩]
    filterTokens "!!=5" = .ok words ∧
      ofTokens "property" "!!=5" words = .ok ⟨"property !property != ?", [.int 5]⟩ ∧
      words ≠ [] ∧ ¬IsPredicate "property" "property !property != ?" := by
  intro words
  have hexpression : subjects "property" ("property" ++ " != ?") 1 ++ ("property" ++ " != ?") =
      "property !property != ?" := by decide +kernel
  refine ⟨by decide +kernel, by decide +kernel, by simp [words], ?_⟩
  rw [← hexpression]
  exact not_isPredicate_of_subjects .unequal 0

end PropertyFilter.Predicate
