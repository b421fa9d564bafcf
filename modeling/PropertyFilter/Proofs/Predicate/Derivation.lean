import PropertyFilter.Condition.Predicate

/-!
  # Derivations of predicates

  `Predicate.ofWords` decides on the first word and recurses behind a negation. Here
  its successful runs are given as a relation `Derives key negated words c`, with one
  rule for each way in which words say a predicate:

      equality     = value            comparison     > value ...
      search       ~ value            membership     in ( values )
      number       value              negatedValue   ! value
      negation     ! words

  What an operand is bound to depends on the word in front of it only
  (`boundValue?`). The relation is exact (`ofWords_ok_iff`), so that whatever holds
  of every accepted filter is proved by induction on a derivation, and acceptance by
  giving one.
-/

namespace PropertyFilter

namespace FilterWord

/-- The four words that order their operand and the property. -/
def isOrdering : FilterWord → Bool
  | greaterThan | greaterOrEqual | lessThan | lessOrEqual => true
  | _ => false

/-- An ordering word has an SQL spelling. -/
theorem sqlOperator?_of_isOrdering {w : FilterWord} (h : w.isOrdering = true) :
    ∃ operator, w.sqlOperator? = some operator := by
  cases w with
  | greaterThan => exact ⟨">", rfl⟩
  | greaterOrEqual => exact ⟨">=", rfl⟩
  | lessThan => exact ⟨"<", rfl⟩
  | lessOrEqual => exact ⟨"<=", rfl⟩
  | _ => simp [isOrdering] at h

/-- Two words that a test tells apart. -/
theorem ne_of_test (test : FilterWord → Bool) {w v : FilterWord} (h : test w = true)
    (hv : test v = false) : w ≠ v := by
  intro heq
  rw [heq, hv] at h
  cases h

/-- An ordering word is no value. -/
theorem isValue_of_isOrdering {w : FilterWord} (h : w.isOrdering = true) :
    w.isValue = false := by
  cases w with
  | number | quoted => cases h
  | _ => rfl

end FilterWord

namespace Predicate

/-! ## Section 1: Values of operands -/

/-- The pattern that a text behind `=` is compared with, if it is split by stars. -/
def equalityPattern? (text : String) : Option String :=
  let stars := starTokens text
  if 1 < stars.length then some (wildcardPattern stars) else none

/-- What a quoted text is bound as behind `operator`: a pattern behind `~`, and behind
`=` if stars split it; the text itself otherwise. -/
def boundText (operator : FilterWord) (text : String) : String :=
  if operator = .like then containsPattern (starTokens text)
  else if operator = .equalTo then (equalityPattern? text).getD text
  else text

/-- The value that an operand is bound to behind `operator`. A number has a value if
its text is a number, except behind `~`, where it is a text; other words than numbers
and quoted texts have none. -/
def boundValue? (operator : FilterWord) (t : FilterToken) : Option Param :=
  match t.kind with
  | .number =>
    if operator = .like then some (.text ("%" ++ t.text ++ "%")) else Param.ofNumber? t.text
  | .quoted => some (.text (boundText operator (unquote t.text)))
  | _ => none

/-- Is the operand compared with a pattern behind `=`? -/
def hasPattern (t : FilterToken) : Bool :=
  t.kind = .quoted && (equalityPattern? (unquote t.text)).isSome

/-- The text of `=value`. Behind a negation it lacks the key, which the negation puts
in front. -/
def equalityText (key : String) (negated : Bool) (t : FilterToken) : String :=
  if hasPattern t then (if negated then "not" else key) ++ " like ?"
  else operatorText key negated "="

/-- The text of `~value`: a number is searched in the text form of the property. -/
def searchText (key : String) (t : FilterToken) : String :=
  if t.kind = .number then "cast(" ++ key ++ " as varchar(32)) like ?" else key ++ " like ?"

/-- The text of `in(v1,...)` with the given values. -/
def membershipText (key : String) (negated : Bool) (params : List Param) : String :=
  (if negated then "not in(" else key ++ " in(") ++ placeholders params ++ ")"

/-! ## Section 2: The rules -/

/-- The words behind the opening bracket of a list, and the values they are bound to. -/
inductive ListDerives : List FilterToken → List Param → Prop
  | last {v close : FilterToken} {p : Param} :
      boundValue? .inList v = some p → close.kind = .closeBracket →
      ListDerives [v, close] [p]
  | more {v comma : FilterToken} {rest : List FilterToken} {p : Param} {ps : List Param} :
      boundValue? .inList v = some p → comma.kind = .comma → ListDerives rest ps →
      ListDerives (v :: comma :: rest) (p :: ps)

/-- `Derives key negated words c`: the words say the condition `c` about `key`; behind
a negation, `c` may lack the key in front. -/
inductive Derives (key : String) : Bool → List FilterToken → Condition → Prop
  | equality {negated : Bool} {o v : FilterToken} {p : Param} :
      o.kind = .equalTo → boundValue? .equalTo v = some p →
      Derives key negated [o, v] ⟨equalityText key negated v, [p]⟩
  | comparison {o v : FilterToken} {operator : String} {p : Param} :
      o.kind.isOrdering = true → o.kind.sqlOperator? = some operator →
      boundValue? o.kind v = some p →
      Derives key false [o, v] ⟨key ++ " " ++ operator ++ " ?", [p]⟩
  | search {negated : Bool} {o v : FilterToken} {p : Param} :
      o.kind = .like → boundValue? .like v = some p →
      Derives key negated [o, v] ⟨searchText key v, [p]⟩
  | membership {negated : Bool} {w bracket : FilterToken} {vs : List FilterToken}
      {ps : List Param} :
      w.kind = .inList → bracket.kind = .openBracket → ListDerives vs ps →
      Derives key negated (w :: bracket :: vs) ⟨membershipText key negated ps, ps⟩
  | number {negated : Bool} {v : FilterToken} {p : Param} :
      v.kind = .number → boundValue? .number v = some p →
      Derives key negated [v] ⟨key ++ " = ?", [p]⟩
  | negatedValue {negated : Bool} {n v : FilterToken} {p : Param} :
      n.kind = .negation → boundValue? .negation v = some p →
      Derives key negated [n, v] ⟨key ++ " = !?", [p]⟩
  | negation {negated : Bool} {n second third : FilterToken} {more : List FilterToken}
      {c : Condition} :
      n.kind = .negation → second.kind ≠ .like →
      Derives key true (second :: third :: more) c →
      Derives key negated (n :: second :: third :: more) (negate key c)

/-! ## Section 3: One operand -/

/-- A computation in two steps succeeds when both of them do. -/
theorem bind_ok_iff {ε α β : Type} {x : Except ε α} {f : α → Except ε β} {b : β} :
    x >>= f = .ok b ↔ ∃ a, x = .ok a ∧ f a = .ok b := by
  cases x with
  | error e => simp [bind, Except.bind]
  | ok a => simp [bind, Except.bind]

/-- The second step only makes something of what the first one gives. -/
theorem bind_pure_ok_iff {ε α β : Type} {x : Except ε α} {f : α → β} {b : β} :
    (x >>= fun a => pure (f a)) = .ok b ↔ ∃ a, x = .ok a ∧ b = f a := by
  rw [bind_ok_iff]
  simp only [pure, Except.pure, Except.ok.injEq, eq_comm]

theorem numberParam_ok_iff {filter : String} {t : FilterToken} {p : Param} :
    numberParam filter t = .ok p ↔ Param.ofNumber? t.text = some p := by
  unfold numberParam
  cases Param.ofNumber? t.text with
  | none => simp
  | some q => simp

/-- An operand that is taken as it is: behind every operator but `~`, and of the texts
behind `=` none. -/
theorem operandParam_ok_iff {filter : String} {fault : Fault} {operator : FilterWord}
    {t : FilterToken} {p : Param} (hlike : operator ≠ .like)
    (heq : operator = .equalTo → t.kind ≠ .quoted) :
    operandParam filter fault t = .ok p ↔ boundValue? operator t = some p := by
  cases hk : t.kind with
  | number => simp [operandParam, boundValue?, hk, hlike, numberParam_ok_iff]
  | quoted =>
    have hother : operator ≠ .equalTo := fun h => heq h hk
    simp [operandParam, boundValue?, boundText, hk, hlike, hother]
  | _ => simp [operandParam, boundValue?, hk]

/-- Any operand but a quoted text is taken as it is. -/
theorem equality_plain {key filter : String} {negated : Bool} {v : FilterToken}
    (hk : v.kind ≠ .quoted) :
    equality key filter negated v =
      (operandParam filter .invalidOperand v >>= fun p =>
        pure ⟨operatorText key negated "=", [p]⟩) := by
  unfold equality
  split
  · next hquoted => exact absurd hquoted hk
  · rfl

theorem equality_ok_iff {key filter : String} {negated : Bool} {v : FilterToken}
    {c : Condition} :
    equality key filter negated v = .ok c ↔
      ∃ p, boundValue? .equalTo v = some p ∧ c = ⟨equalityText key negated v, [p]⟩ := by
  by_cases hk : v.kind = .quoted
  · -- the test for stars is the one that the pattern is made under
    by_cases hs : 1 < (starTokens (unquote v.text)).length
    · simp [equality, boundValue?, boundText, equalityText, hasPattern, equalityPattern?, hk, hs,
        eq_comm]
    · simp [equality, boundValue?, boundText, equalityText, hasPattern, equalityPattern?, hk, hs,
        eq_comm]
  · have htext : equalityText key negated v = operatorText key negated "=" := by
      simp [equalityText, hasPattern, hk]
    have hoperand (p : Param) :
        operandParam filter .invalidOperand v = .ok p ↔ boundValue? .equalTo v = some p :=
      operandParam_ok_iff (by decide) (fun _ => hk)
    rw [equality_plain hk, bind_pure_ok_iff, htext]
    simp only [hoperand]

theorem comparison_ok_iff {key filter operator : String} {negated : Bool} {o : FilterWord}
    {v : FilterToken} {c : Condition} (ho : o.isOrdering = true) :
    comparison key filter operator negated v = .ok c ↔
      negated = false ∧ ∃ p, boundValue? o v = some p ∧
        c = ⟨key ++ " " ++ operator ++ " ?", [p]⟩ := by
  have hlike : o ≠ .like := FilterWord.ne_of_test FilterWord.isOrdering ho rfl
  have heq : o ≠ .equalTo := FilterWord.ne_of_test FilterWord.isOrdering ho rfl
  cases negated with
  | true => simp [comparison]
  | false =>
    have hoperand (p : Param) :
        operandParam filter .invalidOperand v = .ok p ↔ boundValue? o v = some p :=
      operandParam_ok_iff hlike (fun h => absurd h heq)
    show (operandParam filter .invalidOperand v >>= fun p =>
      pure ⟨key ++ " " ++ operator ++ " ?", [p]⟩) = .ok c ↔ _
    rw [bind_pure_ok_iff]
    simp only [hoperand, true_and]

theorem search_ok_iff {key : String} {v : FilterToken} {c : Condition} :
    search key v = .ok c ↔
      ∃ p, boundValue? .like v = some p ∧ c = ⟨searchText key v, [p]⟩ := by
  unfold search
  cases hk : v.kind <;> simp [boundValue?, boundText, searchText, hk, eq_comm]

/-! ## Section 4: Lists -/

/-- The operands of a list are taken as they are. -/
theorem listOperand_ok_iff {filter : String} {v : FilterToken} {p : Param} :
    operandParam filter (.invalidExpression filter) v = .ok p ↔
      boundValue? .inList v = some p :=
  operandParam_ok_iff (by decide) (fun h => absurd h (by decide))

theorem listParams_of_derives {filter : String} {vs : List FilterToken} {ps : List Param}
    (h : ListDerives vs ps) : listParams filter vs = .ok ps := by
  induction h with
  | @last v close p hv hclose =>
    have hp : operandParam filter (.invalidExpression filter) v = .ok p :=
      listOperand_ok_iff.mpr hv
    unfold listParams
    rw [bind_ok_iff]
    exact ⟨p, hp, by rw [hclose]; rfl⟩
  | @more v comma rest p ps hv hcomma _ ih =>
    have hp : operandParam filter (.invalidExpression filter) v = .ok p :=
      listOperand_ok_iff.mpr hv
    unfold listParams
    rw [bind_ok_iff]
    refine ⟨p, hp, ?_⟩
    rw [hcomma]
    exact bind_pure_ok_iff.mpr ⟨ps, ih, rfl⟩

theorem derives_of_listParams {filter : String} {vs : List FilterToken} {ps : List Param}
    (h : listParams filter vs = .ok ps) : ListDerives vs ps := by
  fun_induction listParams filter vs generalizing ps with
  | case1 v separator rest ih =>
    obtain ⟨p, hp, h⟩ := bind_ok_iff.mp h
    have hv := listOperand_ok_iff.mp hp
    -- a comma goes on with the list, a bracket ends it, and nothing else may stand there
    cases hs : separator.kind with
    | comma =>
      rw [hs] at h
      obtain ⟨more, hmore, rfl⟩ := bind_pure_ok_iff.mp h
      exact .more hv hs (ih hmore)
    | closeBracket =>
      rw [hs] at h
      cases rest with
      | nil =>
        cases h
        exact .last hv hs
      | cons t ts => cases h
    | _ =>
      rw [hs] at h
      cases h
  | case2 vs hshort => simp at h

theorem listParams_ok_iff {filter : String} {vs : List FilterToken} {ps : List Param} :
    listParams filter vs = .ok ps ↔ ListDerives vs ps :=
  ⟨derives_of_listParams, listParams_of_derives⟩

theorem membership_ok_iff {key filter : String} {negated : Bool} {bracket : FilterToken}
    {vs : List FilterToken} {c : Condition} :
    membership key filter negated (bracket :: vs) = .ok c ↔
      bracket.kind = .openBracket ∧
        ∃ ps, ListDerives vs ps ∧ c = ⟨membershipText key negated ps, ps⟩ := by
  have hlist (ps : List Param) : listParams filter vs = .ok ps ↔ ListDerives vs ps :=
    listParams_ok_iff
  by_cases hb : bracket.kind = .openBracket
  · have hbehind : membership key filter negated (bracket :: vs) =
        (listParams filter vs >>= fun ps => pure ⟨membershipText key negated ps, ps⟩) := by
      simp [membership, membershipText, hb]
    rw [hbehind, bind_pure_ok_iff]
    simp only [hlist, hb, true_and]
  · simp [membership, hb, bind, Except.bind, throw, throwThe, MonadExceptOf.throw]

/-! ## Section 5: The rules are exact -/

/-- The four words that order are treated alike. -/
theorem ofWords_ordering {key filter operator : String} {negated : Bool} {o v : FilterToken}
    (ho : o.kind.isOrdering = true) (hop : o.kind.sqlOperator? = some operator) :
    ofWords key filter negated [o, v] = comparison key filter operator negated v := by
  rw [ofWords.eq_def]
  cases hk : o.kind with
  | greaterThan | greaterOrEqual | lessThan | lessOrEqual =>
    rw [hk] at hop
    cases hop
    simp only [hk]
  | _ =>
    rw [hk] at ho
    cases ho

theorem ofWords_of_derives {key filter : String} {negated : Bool} {words : List FilterToken}
    {c : Condition} (h : Derives key negated words c) :
    ofWords key filter negated words = .ok c := by
  induction h with
  | equality ho hv =>
    simpa [ofWords, ho] using equality_ok_iff.mpr ⟨_, hv, rfl⟩
  | @comparison o v operator p ho hop hv =>
    rw [ofWords_ordering ho hop]
    exact (comparison_ok_iff ho).mpr ⟨rfl, p, hv, rfl⟩
  | search ho hv =>
    simpa [ofWords, ho] using search_ok_iff.mpr ⟨_, hv, rfl⟩
  | membership hw hb hvs =>
    rw [ofWords.eq_def]
    simpa [hw] using membership_ok_iff.mpr ⟨hb, _, hvs, rfl⟩
  | @number negated v p hk hv =>
    have hp : numberParam filter v = .ok p :=
      numberParam_ok_iff.mpr (by simpa [boundValue?, hk] using hv)
    rw [ofWords.eq_def]
    simp only [hk]
    exact bind_pure_ok_iff.mpr ⟨p, hp, rfl⟩
  | @negatedValue negated n v p hn hv =>
    have hp : operandParam filter (.invalidExpression filter) v = .ok p :=
      (operandParam_ok_iff (by decide) (fun h => absurd h (by decide))).mpr hv
    rw [ofWords.eq_def]
    simp only [hn]
    exact bind_pure_ok_iff.mpr ⟨p, hp, rfl⟩
  | negation hn hsecond _ ih =>
    rw [ofWords.eq_def]
    simp [hn, hsecond, ih, Except.map]

/-- An operator that stands before exactly one operand. -/
theorem one_ok {filter : String} {make : FilterToken → Except Fault Condition}
    {rest : List FilterToken} {c : Condition}
    (h : (match rest with
      | [operand] => make operand
      | _ => .error (.invalidExpression filter)) = .ok c) :
    ∃ v, rest = [v] ∧ make v = .ok c := by
  match rest, h with
  | [v], h => exact ⟨v, rfl, h⟩

theorem derives_of_ofWords {key filter : String} :
    ∀ {words : List FilterToken} {negated : Bool} {c : Condition},
      ofWords key filter negated words = .ok c → Derives key negated words c
  | [], _, _, h => by simp [ofWords] at h
  | first :: rest, negated, c, h => by
    rw [ofWords.eq_def] at h
    -- the first word decides
    cases hk : first.kind with
    | equalTo =>
      simp only [hk] at h
      obtain ⟨v, rfl, hv⟩ := one_ok h
      obtain ⟨p, hp, rfl⟩ := equality_ok_iff.mp hv
      exact .equality hk hp
    | greaterThan | greaterOrEqual | lessThan | lessOrEqual =>
      simp only [hk] at h
      obtain ⟨v, rfl, hv⟩ := one_ok h
      obtain ⟨rfl, p, hp, rfl⟩ := (comparison_ok_iff (o := first.kind) (by rw [hk]; rfl)).mp hv
      exact .comparison (by rw [hk]; rfl) (by rw [hk]; rfl) hp
    | like =>
      simp only [hk] at h
      obtain ⟨v, rfl, hv⟩ := one_ok h
      obtain ⟨p, hp, rfl⟩ := search_ok_iff.mp hv
      exact .search hk hp
    | inList =>
      simp only [hk] at h
      cases rest with
      | nil => simp [membership] at h
      | cons bracket vs =>
        obtain ⟨hb, ps, hvs, rfl⟩ := membership_ok_iff.mp h
        exact .membership hk hb hvs
    | number =>
      simp only [hk] at h
      cases rest with
      | nil =>
        obtain ⟨p, hp, rfl⟩ := bind_pure_ok_iff.mp h
        have hv : boundValue? .number first = some p := by
          simpa [boundValue?, hk] using numberParam_ok_iff.mp hp
        exact .number hk hv
      | cons t ts => simp at h
    | negation =>
      simp only [hk] at h
      match rest, h with
      | [v], h =>
        obtain ⟨p, hp, rfl⟩ := bind_pure_ok_iff.mp h
        have hv : boundValue? .negation v = some p :=
          (operandParam_ok_iff (by decide) (fun h => absurd h (by decide))).mp hp
        exact .negatedValue hk hv
      | second :: third :: more, h =>
        by_cases hs : second.kind = .like
        · simp [hs] at h
        · simp only [hs, ↓reduceIte] at h
          cases hi : ofWords key filter true (second :: third :: more) with
          | error fault => simp [hi, Except.map] at h
          | ok inner =>
            simp only [hi, Except.map, Except.ok.injEq] at h
            subst h
            exact .negation hk hs (derives_of_ofWords hi)
    | quoted | openBracket | closeBracket | comma => simp [hk] at h

/-- **The rules are exact**: a filter is accepted with the condition that the rules
derive, and with no other. -/
theorem ofWords_ok_iff {key filter : String} {negated : Bool} {words : List FilterToken}
    {c : Condition} :
    ofWords key filter negated words = .ok c ↔ Derives key negated words c :=
  ⟨derives_of_ofWords, ofWords_of_derives⟩

/-- Words say one condition about a key at most. -/
theorem Derives.unique {key : String} {negated : Bool} {words : List FilterToken}
    {c d : Condition} (hc : Derives key negated words c) (hd : Derives key negated words d) :
    c = d := by
  have hread : ofWords key "" negated words = .ok c := ofWords_of_derives hc
  exact Except.ok.inj (hread.symm.trans (ofWords_of_derives hd))

/-- No words say the condition that always holds; all others go by the rules. -/
theorem ofTokens_ok_iff {key filter : String} {words : List FilterToken} {c : Condition} :
    ofTokens key filter words = .ok c ↔
      (words = [] ∧ c = .always) ∨ Derives key false words c := by
  unfold ofTokens
  cases words with
  | nil =>
    constructor
    · intro h
      cases h
      exact Or.inl ⟨rfl, rfl⟩
    · rintro (⟨-, rfl⟩ | h)
      · rfl
      · cases h
  | cons w ws => simp [ofWords_ok_iff]

end Predicate

end PropertyFilter
