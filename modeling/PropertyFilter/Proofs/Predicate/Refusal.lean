import PropertyFilter.Proofs.Predicate.Grammar

/-!
  # Faults of refused words

  Words that are refused are told a cause. Which one it is depends on the kinds of the words
  alone, and of these on the first two behind the negations:

      behind `!`     > operand (and >= < <=)     forbiddenAfterNot
                     ~ word ...                  notBeforeLike
      anywhere       = other                     invalidOperand
      without `!`    > other (and >= < <=)       invalidOperand
                     ~ other                     invalidLikeOperand

  where `operand` is any one word, and `other` one that is neither a number nor a quoted text.
  Everything else that is refused is no expression, and is reported with the whole filter.

  Main statement: the fault of every list of words, at any number of negations, is the one
  that its form asks for (`ofTokens_error_iff`).
-/

namespace PropertyFilter.Predicate

/-! ## Section 1: Misuses -/

/-- Words behind the negations of a filter, if there are any (`negated`), that use an
operator in a way that has a fault of its own. -/
inductive Misuse : Bool → List FilterToken → Fault → Prop
  /-- An order cannot be negated, whatever it is compared with. -/
  | negatedOrdering {o v : FilterToken} {operator : String} :
      o.kind.isOrdering = true → o.kind.sqlOperator? = some operator →
      Misuse true [o, v] (.forbiddenAfterNot operator)
  /-- A search cannot be negated, whatever is behind it. -/
  | negatedSearch {o v : FilterToken} {more : List FilterToken} :
      o.kind = .like → Misuse true (o :: v :: more) .notBeforeLike
  | equality {negated : Bool} {o v : FilterToken} :
      o.kind = .equalTo → v.kind.isValue = false → Misuse negated [o, v] .invalidOperand
  | ordering {o v : FilterToken} :
      o.kind.isOrdering = true → v.kind.isValue = false → Misuse false [o, v] .invalidOperand
  | search {o v : FilterToken} :
      o.kind = .like → v.kind.isValue = false → Misuse false [o, v] .invalidLikeOperand

/-- Negations, possibly none, and behind them words that use an operator wrongly. The
negations of the words count together with those in front of them (`negated`). -/
def Misused (negated : Bool) (words : List FilterToken) (fault : Fault) : Prop :=
  ∃ nots body, words = nots ++ body ∧ (∀ t ∈ nots, t.kind = .negation) ∧
    Misuse (negated || !nots.isEmpty) body fault

section misuse
variable {negated : Bool} {words body : List FilterToken} {fault : Fault}

theorem Misuse.misused (h : Misuse negated body fault) : Misused negated body fault :=
  ⟨[], body, rfl, by simp, by simpa using h⟩

/-- One more negation in front. -/
theorem Misused.behind (h : Misused true words fault) {n : FilterToken}
    (hn : n.kind = .negation) : Misused negated (n :: words) fault := by
  obtain ⟨nots, body, rfl, hnots, hbody⟩ := h
  refine ⟨n :: nots, body, rfl, ?_, by simpa using hbody⟩
  intro t ht
  rcases List.mem_cons.mp ht with rfl | ht
  · exact hn
  · exact hnots t ht

/-- A misuse is an operator with at least one word behind it. -/
theorem Misuse.exists_words (h : Misuse negated body fault) :
    ∃ o v more, body = o :: v :: more := by
  cases h with
  | negatedOrdering | negatedSearch | equality | ordering | search => exact ⟨_, _, _, rfl⟩

/-- A misuse has a fault of its own. -/
theorem Misused.ne_invalidExpression (h : Misused negated words fault) (filter : String) :
    fault ≠ .invalidExpression filter := by
  obtain ⟨nots, body, -, -, hbody⟩ := h
  rintro rfl
  generalize (negated || !nots.isEmpty) = behind at hbody
  cases hbody

end misuse

/-! ## Section 2: Faults of operators -/

section operators
variable {key filter : String} {negated : Bool} {o v : FilterToken} {e : Fault}

theorem numberParam_error (h : numberParam filter v = .error e) :
    e = .invalidExpression filter := by
  unfold numberParam at h
  split at h
  · cases h
  · exact (Except.error.inj h).symm

/-- A word that is no value has the fault that its operator asks for. -/
theorem operandParam_of_other (fault : Fault) (hv : v.kind.isValue = false) :
    operandParam filter fault v = .error fault := by
  unfold operandParam
  cases hk : v.kind with
  | number | quoted =>
    rw [hk] at hv
    cases hv
  | _ => rfl

/-- A value is refused only if it is a number that cannot be read. -/
theorem operandParam_error {fault : Fault} (h : operandParam filter fault v = .error e) :
    (v.kind.isValue = false ∧ e = fault) ∨ e = .invalidExpression filter := by
  cases hv : v.kind.isValue with
  | false =>
    rw [operandParam_of_other fault hv] at h
    cases h
    exact Or.inl ⟨rfl, rfl⟩
  | true =>
    unfold operandParam at h
    cases hk : v.kind with
    | number =>
      simp only [hk] at h
      exact Or.inr (numberParam_error h)
    | quoted => simp [hk] at h
    | _ =>
      rw [hk] at hv
      cases hv

/-- The second step of a computation fails only if the first one does. -/
theorem bind_pure_error {α β : Type} {x : Except Fault α} {f : α → β}
    (h : (x >>= fun a => pure (f a)) = .error e) : x = .error e := by
  cases x with
  | ok a => cases h
  | error fault => exact congrArg Except.error (Except.error.inj h)

theorem equality_of_other (hv : v.kind.isValue = false) :
    equality key filter negated v = .error .invalidOperand := by
  have hquoted : v.kind ≠ .quoted := by
    intro hk
    rw [hk] at hv
    cases hv
  rw [equality_plain hquoted, operandParam_of_other _ hv]
  rfl

theorem equality_error (h : equality key filter negated v = .error e) :
    (v.kind.isValue = false ∧ e = .invalidOperand) ∨ e = .invalidExpression filter := by
  by_cases hquoted : v.kind = .quoted
  · -- a quoted text always has a value
    unfold equality at h
    simp only [hquoted] at h
    split at h <;> cases h
  · rw [equality_plain hquoted] at h
    exact operandParam_error (bind_pure_error h)

theorem comparison_of_other {operator : String} (hv : v.kind.isValue = false) :
    comparison key filter operator false v = .error .invalidOperand := by
  show (operandParam filter .invalidOperand v >>= fun p =>
    pure (⟨key ++ " " ++ operator ++ " ?", [p]⟩ : Condition)) = _
  rw [operandParam_of_other _ hv]
  rfl

theorem comparison_error {operator : String}
    (h : comparison key filter operator false v = .error e) :
    (v.kind.isValue = false ∧ e = .invalidOperand) ∨ e = .invalidExpression filter :=
  operandParam_error (bind_pure_error h)

theorem search_error_iff :
    search key v = .error e ↔ v.kind.isValue = false ∧ e = .invalidLikeOperand := by
  unfold search
  cases hk : v.kind <;> simp [FilterWord.isValue, eq_comm]

/-- A list has no fault of its own. -/
theorem listParams_error {vs : List FilterToken} (h : listParams filter vs = .error e) :
    e = .invalidExpression filter := by
  fun_induction listParams filter vs with
  | case1 value separator rest ih =>
    cases hp : operandParam filter (.invalidExpression filter) value with
    | error fault =>
      rw [hp] at h
      obtain rfl : fault = e := Except.error.inj h
      rcases operandParam_error hp with ⟨-, rfl⟩ | rfl
      · rfl
      · rfl
    | ok p =>
      rw [hp] at h
      dsimp only [bind, Except.bind] at h
      cases hs : separator.kind with
      | comma =>
        simp only [hs] at h
        exact ih (bind_pure_error h)
      | closeBracket =>
        simp only [hs] at h
        cases rest with
        | nil => cases h
        | cons t ts => exact (Except.error.inj h).symm
      | _ =>
        simp only [hs] at h
        exact (Except.error.inj h).symm
  | case2 vs hshort => exact (Except.error.inj h).symm

theorem membership_error {rest : List FilterToken}
    (h : membership key filter negated rest = .error e) : e = .invalidExpression filter := by
  cases rest with
  | nil => exact (Except.error.inj h).symm
  | cons bracket vs =>
    by_cases hb : bracket.kind = .openBracket
    · have hbehind : membership key filter negated (bracket :: vs) =
          (listParams filter vs >>= fun ps => pure ⟨membershipText key negated ps, ps⟩) := by
        simp [membership, membershipText, hb]
      rw [hbehind] at h
      exact listParams_error (bind_pure_error h)
    · have hbehind : membership key filter negated (bracket :: vs) =
          .error (.invalidExpression filter) := by
        simp [membership, hb, bind, Except.bind, throw, throwThe, MonadExceptOf.throw]
      rw [hbehind] at h
      exact (Except.error.inj h).symm

/-- An operator that stands before exactly one operand. -/
theorem one_error {make : FilterToken → Except Fault Condition} {rest : List FilterToken}
    (h : (match rest with
      | [operand] => make operand
      | _ => .error (.invalidExpression filter)) = .error e) :
    (∃ v, rest = [v] ∧ make v = .error e) ∨ e = .invalidExpression filter := by
  split at h
  · exact Or.inl ⟨_, rfl, h⟩
  · exact Or.inr (Except.error.inj h).symm

end operators

/-! ## Section 3: Faults of words -/

section words
variable {key filter : String}

/-- At least two words behind a negation are a predicate of their own, unless they are a
search. -/
theorem ofWords_negation {negated : Bool} {n second third : FilterToken}
    {more : List FilterToken} (hn : n.kind = .negation) :
    ofWords key filter negated (n :: second :: third :: more) =
      if second.kind = .like then .error .notBeforeLike
      else (ofWords key filter true (second :: third :: more)).map (negate key) := by
  rw [ofWords.eq_def]
  simp only [hn]

/-- **Every fault has its form.** Words that are refused use an operator wrongly, or the
whole filter is reported. -/
theorem misused_of_ofWords :
    ∀ {words : List FilterToken} {negated : Bool} {fault : Fault},
      (negated = true → ∀ first ∈ words.head?, first.kind ≠ .like) →
      ofWords key filter negated words = .error fault →
        Misused negated words fault ∨ fault = .invalidExpression filter
  | [], _, _, _, h => Or.inr (Except.error.inj h).symm
  | first :: rest, negated, fault, hlike, h => by
    rw [ofWords.eq_def] at h
    -- the first word decides
    cases hk : first.kind with
    | equalTo =>
      simp only [hk] at h
      rcases one_error h with ⟨v, rfl, hv⟩ | rfl
      · rcases equality_error hv with ⟨hother, rfl⟩ | rfl
        · exact Or.inl (Misuse.equality hk hother).misused
        · exact Or.inr rfl
      · exact Or.inr rfl
    | greaterThan | greaterOrEqual | lessThan | lessOrEqual =>
      simp only [hk] at h
      rcases one_error h with ⟨v, rfl, hv⟩ | rfl
      · cases negated with
        | true =>
          obtain rfl := Except.error.inj hv
          exact Or.inl (Misuse.negatedOrdering (by rw [hk]; rfl) (by rw [hk]; rfl)).misused
        | false =>
          rcases comparison_error hv with ⟨hother, rfl⟩ | rfl
          · exact Or.inl (Misuse.ordering (by rw [hk]; rfl) hother).misused
          · exact Or.inr rfl
      · exact Or.inr rfl
    | like =>
      simp only [hk] at h
      rcases one_error h with ⟨v, rfl, hv⟩ | rfl
      · obtain ⟨hother, rfl⟩ := search_error_iff.mp hv
        cases negated with
        | true => exact absurd hk (hlike rfl first rfl)
        | false => exact Or.inl (Misuse.search hk hother).misused
      · exact Or.inr rfl
    | inList =>
      simp only [hk] at h
      exact Or.inr (membership_error h)
    | number =>
      simp only [hk] at h
      split at h
      · exact Or.inr (numberParam_error (bind_pure_error h))
      · exact Or.inr (Except.error.inj h).symm
    | negation =>
      simp only [hk] at h
      cases rest with
      | nil => exact Or.inr (Except.error.inj h).symm
      | cons second rest =>
        cases rest with
        | nil =>
          rcases operandParam_error (bind_pure_error h) with ⟨-, rfl⟩ | rfl
          · exact Or.inr rfl
          · exact Or.inr rfl
        | cons third more =>
          by_cases hs : second.kind = .like
          · simp only [hs, ↓reduceIte] at h
            obtain rfl := Except.error.inj h
            exact Or.inl ((Misuse.negatedSearch hs).misused.behind hk)
          · simp only [hs, ↓reduceIte] at h
            cases hi : ofWords key filter true (second :: third :: more) with
            | ok inner =>
              rw [hi] at h
              cases h
            | error inner =>
              rw [hi] at h
              obtain rfl : inner = fault := Except.error.inj h
              have hhead : true = true → ∀ first ∈ (second :: third :: more).head?,
                  first.kind ≠ .like := by simpa using hs
              exact (misused_of_ofWords hhead hi).imp_left (·.behind hk)
    | quoted | openBracket | closeBracket | comma =>
      simp only [hk] at h
      exact Or.inr (Except.error.inj h).symm

/-- The same of a whole filter: nothing is in front of its words. -/
theorem misused_of_ofTokens {words : List FilterToken} {fault : Fault}
    (h : ofTokens key filter words = .error fault) :
    Misused false words fault ∨ fault = .invalidExpression filter := by
  unfold ofTokens at h
  split at h
  · cases h
  · exact misused_of_ofWords (by simp) h

/-- A misuse without a negation has its fault. -/
theorem Misuse.ofWords_eq {body : List FilterToken} {fault : Fault} (h : Misuse false body fault) :
    ofWords key filter false body = .error fault := by
  cases h with
  | equality ho hother =>
    rw [ofWords.eq_def]
    simp only [ho]
    exact equality_of_other hother
  | ordering ho hother =>
    obtain ⟨operator, hop⟩ := FilterWord.sqlOperator?_of_isOrdering ho
    rw [ofWords_ordering ho hop]
    exact comparison_of_other hother
  | search ho hother =>
    rw [ofWords.eq_def]
    simp only [ho]
    exact search_error_iff.mpr ⟨hother, rfl⟩

/-- A misuse behind one negation has its fault. -/
theorem Misuse.ofWords_behind {body : List FilterToken} {fault : Fault} (h : Misuse true body fault)
    {n : FilterToken} (hn : n.kind = .negation) (negated : Bool) :
    ofWords key filter negated (n :: body) = .error fault := by
  cases h with
  | negatedSearch ho => rw [ofWords_negation hn, if_pos ho]
  | @negatedOrdering o v operator ho hop =>
    have hlike : o.kind ≠ .like := FilterWord.ne_of_test FilterWord.isOrdering ho rfl
    rw [ofWords_negation hn, if_neg hlike, ofWords_ordering ho hop]
    rfl
  | @equality _ o v ho hother =>
    have hlike : o.kind ≠ .like := by simp [ho]
    have hinner : ofWords key filter true [o, v] = .error .invalidOperand := by
      rw [ofWords.eq_def]
      simp only [ho]
      exact equality_of_other hother
    rw [ofWords_negation hn, if_neg hlike, hinner]
    rfl

/-- More negations in front change no fault. -/
theorem Misuse.ofWords_behind_many {body : List FilterToken} {fault : Fault}
    (h : Misuse true body fault) (nots : List FilterToken)
    (hnots : ∀ t ∈ nots, t.kind = .negation) {n : FilterToken} (hn : n.kind = .negation)
    (negated : Bool) : ofWords key filter negated (n :: (nots ++ body)) = .error fault := by
  induction nots generalizing n negated with
  | nil => exact h.ofWords_behind hn negated
  | cons second nots ih =>
    have hsecond : second.kind = .negation := hnots second (by simp)
    have hinner : ofWords key filter true (second :: (nots ++ body)) = .error fault :=
      ih (fun t ht => hnots t (by simp [ht])) hsecond true
    obtain ⟨third, more, hmore⟩ : ∃ third more, nots ++ body = third :: more := by
      obtain ⟨o, v, more, rfl⟩ := h.exists_words
      exact List.exists_cons_of_ne_nil (by simp)
    have hlike : second.kind ≠ .like := by simp [hsecond]
    rw [hmore] at hinner
    rw [List.cons_append, hmore, ofWords_negation hn, if_neg hlike, hinner]
    rfl

/-- **Every form has its fault**, whatever the texts of the words are. -/
theorem Misused.ofTokens_eq {words : List FilterToken} {fault : Fault}
    (h : Misused false words fault) : ofTokens key filter words = .error fault := by
  obtain ⟨nots, body, rfl, hnots, hbody⟩ := h
  obtain ⟨o, v, more, hwords⟩ := hbody.exists_words
  have hne : (nots ++ body).isEmpty = false := by simp [hwords]
  unfold ofTokens
  rw [if_neg (by simp [hne])]
  cases nots with
  | nil => exact Misuse.ofWords_eq hbody
  | cons n nots =>
    exact Misuse.ofWords_behind_many hbody nots (fun t ht => hnots t (by simp [ht]))
      (hnots n (by simp)) false

end words

/-! ## Section 4: The fault of a filter -/

/-- **The fault is that of the form.** Words have a fault of an operator if and only if they
use it in that way behind their negations, however many these are; and they are reported with
the whole filter if and only if they are not accepted and use no operator in such a way. -/
theorem ofTokens_error_iff (key filter : String) (words : List FilterToken) (fault : Fault) :
    ofTokens key filter words = .error fault ↔
      Misused false words fault ∨
        (fault = .invalidExpression filter ∧ ¬ Accepted words ∧
          ∀ other, ¬ Misused false words other) := by
  have hform (e : Fault) (he : ofTokens key filter words = .error e) :
      Misused false words e ∨ e = .invalidExpression filter := by
    unfold ofTokens at he
    split at he
    · cases he
    · exact misused_of_ofWords (by simp) he
  constructor
  · intro h
    rcases hform fault h with hmisused | hwhole
    · exact Or.inl hmisused
    · refine Or.inr ⟨hwhole, ?_, ?_⟩
      · intro haccepted
        obtain ⟨c, hc⟩ := exists_ofTokens_iff.mpr haccepted
        rw [h] at hc
        cases hc
      · -- a misuse would have been reported as such
        intro other hother
        have hsame : Except.error other = Except.error fault := hother.ofTokens_eq.symm.trans h
        exact hother.ne_invalidExpression filter ((Except.error.inj hsame).trans hwhole)
  · rintro (hmisused | ⟨rfl, hrefused, hnone⟩)
    · exact hmisused.ofTokens_eq
    · cases hresult : ofTokens key filter words with
      | ok c => exact absurd (exists_ofTokens_iff.mp ⟨c, hresult⟩) hrefused
      | error e =>
        rcases hform e hresult with hmisused | rfl
        · exact absurd hmisused (hnone e)
        · rfl

end PropertyFilter.Predicate
