import PropertyFilter.Proofs.Predicate.Derivation

/-!
  # The grammar of simple filters

  The words of an accepted filter are a run of `!` and a body:

      body          = value
                    | in ( value , ... , value )
      without !     | number    | > value (and >= < <=)    | ~ value
      behind !      | value

  Main statement: exactly the lists of this form are accepted, provided that numbers
  which are read have the text of a number, and then every value word is bound, in
  order (`ofTokens_ok_iff_accepted`).
-/

namespace PropertyFilter.Predicate

/-! ## Section 1: Grammar -/

/-- The words behind the opening bracket of a list: values separated by single commas,
at least one, and a closing bracket that ends the list. -/
inductive ValueList : List FilterToken → Prop
  | last {v close : FilterToken} :
      v.kind.isValue = true → close.kind = .closeBracket → ValueList [v, close]
  | more {v comma : FilterToken} {rest : List FilterToken} :
      v.kind.isValue = true → comma.kind = .comma → ValueList rest →
      ValueList (v :: comma :: rest)

/-- What may stand behind the negations of a filter, if there are any (`negated`), and
by itself. -/
inductive Body : Bool → List FilterToken → Prop
  | equality {negated : Bool} {o v : FilterToken} :
      o.kind = .equalTo → v.kind.isValue = true → Body negated [o, v]
  | membership {negated : Bool} {w bracket : FilterToken} {vs : List FilterToken} :
      w.kind = .inList → bracket.kind = .openBracket → ValueList vs →
      Body negated (w :: bracket :: vs)
  | number {v : FilterToken} : v.kind = .number → Body false [v]
  | comparison {o v : FilterToken} :
      o.kind.isOrdering = true → v.kind.isValue = true → Body false [o, v]
  | search {o v : FilterToken} :
      o.kind = .like → v.kind.isValue = true → Body false [o, v]
  | negatedValue {v : FilterToken} : v.kind.isValue = true → Body true [v]

/-- Every number of a body has the text of a number. A number behind `~` is not read. -/
def Readable (body : List FilterToken) : Prop :=
  (∀ first ∈ body.head?, first.kind ≠ .like) →
    ∀ t ∈ body, t.kind = .number → ∃ p, Param.ofNumber? t.text = some p

/-- No words at all, or negations and a body whose numbers can be read. -/
def Accepted (words : List FilterToken) : Prop :=
  words = [] ∨
    ∃ nots body, words = nots ++ body ∧ (∀ t ∈ nots, t.kind = .negation) ∧
      Body (!nots.isEmpty) body ∧ Readable body

/-- The word that decides how the values of a filter are bound: the first that is no
negation. -/
def leadingWord (words : List FilterToken) : FilterWord :=
  ((words.find? fun t => t.kind ≠ .negation).map Token.kind).getD .negation

/-- The numbers and quoted texts among the words of a filter. -/
def valueWords (words : List FilterToken) : List FilterToken :=
  words.filter fun t => t.kind.isValue

/-- What the value words of a filter are bound to, in their order. -/
def boundValues (words : List FilterToken) : List (Option Param) :=
  (valueWords words).map (boundValue? (leadingWord words))

/-! ## Section 2: Values -/

@[simp] theorem valueWords_nil : valueWords [] = [] := rfl

theorem valueWords_value {v : FilterToken} (words : List FilterToken)
    (h : v.kind.isValue = true) : valueWords (v :: words) = v :: valueWords words :=
  List.filter_cons_of_pos h

theorem valueWords_other {o : FilterToken} (words : List FilterToken)
    (h : o.kind.isValue = false) : valueWords (o :: words) = valueWords words :=
  List.filter_cons_of_neg (by simp [h])

/-- A word that is bound to a value is a number or a quoted text. -/
theorem isValue_of_boundValue? {operator : FilterWord} {v : FilterToken} {p : Param}
    (h : boundValue? operator v = some p) : v.kind.isValue = true := by
  cases hk : v.kind with
  | number | quoted => rfl
  | _ => simp [boundValue?, hk] at h

/-- A number that is bound as a number can be read. -/
theorem readable_of_boundValue? {operator : FilterWord} {v : FilterToken} {p : Param}
    (hlike : operator ≠ .like) (h : boundValue? operator v = some p)
    (hk : v.kind = .number) : ∃ q, Param.ofNumber? v.text = some q := by
  have hnumber : boundValue? operator v = Param.ofNumber? v.text := by
    simp [boundValue?, hk, hlike]
  rw [hnumber] at h
  exact ⟨p, h⟩

/-- A value word is bound to a value, unless it is a number that cannot be read. -/
theorem boundValue?_of_isValue (operator : FilterWord) {v : FilterToken}
    (hv : v.kind.isValue = true)
    (hread : operator ≠ .like → v.kind = .number → ∃ p, Param.ofNumber? v.text = some p) :
    ∃ p, boundValue? operator v = some p := by
  cases hk : v.kind with
  | number =>
    by_cases hlike : operator = .like
    · simp [boundValue?, hk, hlike]
    · have hnumber : boundValue? operator v = Param.ofNumber? v.text := by
        simp [boundValue?, hk, hlike]
      rw [hnumber]
      exact hread hlike hk
  | quoted => simp [boundValue?, hk]
  | _ => simp [FilterWord.isValue, hk] at hv

/-- Only `~` and `=` treat their operand in a way of their own. -/
theorem boundValue?_eq_of_plain {o o' : FilterWord} (v : FilterToken) (h : o ≠ .like)
    (h' : o' ≠ .like) (e : o ≠ .equalTo) (e' : o' ≠ .equalTo) :
    boundValue? o v = boundValue? o' v := by
  simp [boundValue?, boundText, h, h', e, e']

/-- A negation in front changes no value. -/
theorem boundValues_negation {n : FilterToken} (words : List FilterToken)
    (hn : n.kind = .negation) : boundValues (n :: words) = boundValues words := by
  have hlead : leadingWord (n :: words) = leadingWord words := by simp [leadingWord, hn]
  rw [boundValues, boundValues, valueWords_other words (by rw [hn]; rfl), hlead]

/-- Words behind an operator that is no negation and no value itself. -/
theorem boundValues_operator {o : FilterToken} {w : FilterWord} (words : List FilterToken)
    (ho : o.kind = w) (hn : w ≠ .negation) (hv : w.isValue = false) :
    boundValues (o :: words) = (valueWords words).map (boundValue? w) := by
  subst ho
  have hlead : leadingWord (o :: words) = o.kind := by simp [leadingWord, hn]
  rw [boundValues, valueWords_other words hv, hlead]

/-- An operator with one operand binds the value of that operand. -/
theorem boundValues_pair {o v : FilterToken} {w : FilterWord} {p : Param} (ho : o.kind = w)
    (hn : w ≠ .negation) (hvalue : w.isValue = false) (hv : boundValue? w v = some p) :
    boundValues [o, v] = [some p] := by
  have hword : v.kind.isValue = true := isValue_of_boundValue? hv
  rw [boundValues_operator _ ho hn hvalue, valueWords_value _ hword]
  simp [hv]

/-- A value word by itself is bound as behind any plain operator. -/
theorem boundValues_single {operator : FilterWord} {v : FilterToken} {p : Param}
    (hlike : operator ≠ .like) (heq : operator ≠ .equalTo)
    (hv : boundValue? operator v = some p) : boundValues [v] = [some p] := by
  have hvalue := isValue_of_boundValue? hv
  have hother {w : FilterWord} (hw : w.isValue = false) : v.kind ≠ w :=
    FilterWord.ne_of_test FilterWord.isValue hvalue hw
  have hnegation : v.kind ≠ .negation := hother rfl
  have hplain : boundValue? v.kind v = boundValue? operator v :=
    boundValue?_eq_of_plain v (hother rfl) hlike (hother rfl) heq
  have hlead : leadingWord [v] = v.kind := by simp [leadingWord, hnegation]
  rw [boundValues, valueWords_value _ hvalue, hlead]
  simp [hplain, hv]

/-- The values of a list are those of its value words. -/
theorem ListDerives.params_eq {vs : List FilterToken} {ps : List Param}
    (h : ListDerives vs ps) : (valueWords vs).map (boundValue? .inList) = ps.map some := by
  induction h with
  | @last v close p hv hclose =>
    have hend : close.kind.isValue = false := by rw [hclose]; rfl
    rw [valueWords_value _ (isValue_of_boundValue? hv), valueWords_other _ hend]
    simp [hv]
  | @more v comma rest p ps hv hcomma _ ih =>
    have hbetween : comma.kind.isValue = false := by rw [hcomma]; rfl
    rw [valueWords_value _ (isValue_of_boundValue? hv), valueWords_other _ hbetween]
    simp [hv, ih]

/-- **Every value word is bound, in order**, and nothing else is. -/
theorem Derives.params_eq {key : String} {negated : Bool} {words : List FilterToken}
    {c : Condition} (h : Derives key negated words c) :
    boundValues words = c.params.map some := by
  induction h with
  | equality ho hv => exact boundValues_pair ho (by decide) rfl hv
  | comparison ho _ hv =>
    exact boundValues_pair rfl (FilterWord.ne_of_test FilterWord.isOrdering ho rfl)
      (FilterWord.isValue_of_isOrdering ho) hv
  | search ho hv => exact boundValues_pair ho (by decide) rfl hv
  | @membership negated w bracket vs ps hw hb hvs =>
    have hbracket : bracket.kind.isValue = false := by rw [hb]; rfl
    rw [boundValues_operator _ hw (by decide) rfl, valueWords_other _ hbracket]
    exact hvs.params_eq
  | number hk hv => exact boundValues_single (by decide) (by decide) hv
  | negatedValue hn hv =>
    rw [boundValues_negation _ hn]
    exact boundValues_single (by decide) (by decide) hv
  | negation hn _ _ ih =>
    rw [boundValues_negation _ hn, ih]
    rfl

/-! ## Section 3: Accepted words have the form of the grammar -/

theorem ListDerives.valueList {vs : List FilterToken} {ps : List Param}
    (h : ListDerives vs ps) :
    ValueList vs ∧ ∀ t ∈ vs, t.kind = .number → ∃ p, Param.ofNumber? t.text = some p := by
  induction h with
  | last hv hclose =>
    refine ⟨.last (isValue_of_boundValue? hv) hclose, ?_⟩
    intro t ht hk
    rcases List.mem_cons.mp ht with rfl | ht
    · exact readable_of_boundValue? (by decide) hv hk
    · obtain rfl := List.mem_singleton.mp ht
      simp [hclose] at hk
  | more hv hcomma _ ih =>
    refine ⟨.more (isValue_of_boundValue? hv) hcomma ih.1, ?_⟩
    intro t ht hk
    rcases List.mem_cons.mp ht with rfl | ht
    · exact readable_of_boundValue? (by decide) hv hk
    · rcases List.mem_cons.mp ht with rfl | ht
      · simp [hcomma] at hk
      · exact ih.2 t ht hk

/-- The numbers of an operator with one operand can be read. -/
theorem readable_pair {o v : FilterToken} {w : FilterWord} {p : Param} (ho : o.kind = w)
    (hw : w ≠ .number) (hv : boundValue? w v = some p) : Readable [o, v] := by
  subst ho
  intro hfirst t ht hk
  have hlike : o.kind ≠ .like := hfirst o (by simp)
  rcases List.mem_cons.mp ht with rfl | ht
  · exact absurd hk hw
  · obtain rfl := List.mem_singleton.mp ht
    exact readable_of_boundValue? hlike hv hk

/-- A word that is bound as behind `!` can be read. -/
theorem readable_single {operator : FilterWord} {v : FilterToken} {p : Param}
    (hlike : operator ≠ .like) (hv : boundValue? operator v = some p) : Readable [v] := by
  intro _ t ht hk
  obtain rfl := List.mem_singleton.mp ht
  exact readable_of_boundValue? hlike hv hk

/-- The words of a derivation are negations and a body. Behind a negation the first
word is not `~`: the rule for negations asks for that. -/
theorem Derives.accepted {key : String} {negated : Bool} {words : List FilterToken}
    {c : Condition} (h : Derives key negated words c)
    (hlike : negated = true → ∀ first ∈ words.head?, first.kind ≠ .like) :
    ∃ nots body, words = nots ++ body ∧ (∀ t ∈ nots, t.kind = .negation) ∧
      Body (negated || !nots.isEmpty) body ∧ Readable body := by
  induction h with
  | @equality negated o v p ho hv =>
    refine ⟨[], [o, v], rfl, by simp, .equality ho (isValue_of_boundValue? hv), ?_⟩
    exact readable_pair ho (by decide) hv
  | @comparison o v operator p ho hop hv =>
    refine ⟨[], [o, v], rfl, by simp, .comparison ho (isValue_of_boundValue? hv), ?_⟩
    exact readable_pair rfl (FilterWord.ne_of_test FilterWord.isOrdering ho rfl) hv
  | @search negated o v p ho hv =>
    cases negated with
    | true => exact absurd ho (hlike rfl o (by simp))
    | false =>
      refine ⟨[], [o, v], rfl, by simp, .search ho (isValue_of_boundValue? hv), ?_⟩
      exact readable_pair ho (by decide) hv
  | @membership negated w bracket vs ps hw hb hvs =>
    refine ⟨[], w :: bracket :: vs, rfl, by simp, .membership hw hb hvs.valueList.1, ?_⟩
    intro _ t ht hk
    rcases List.mem_cons.mp ht with rfl | ht
    · simp [hw] at hk
    · rcases List.mem_cons.mp ht with rfl | ht
      · simp [hb] at hk
      · exact hvs.valueList.2 t ht hk
  | @number negated v p hk hv =>
    refine ⟨[], [v], rfl, by simp, ?_, readable_single (by decide) hv⟩
    cases negated with
    | true => exact .negatedValue (by rw [hk]; rfl)
    | false => exact .number hk
  | @negatedValue negated n v p hn hv =>
    refine ⟨[n], [v], rfl, by simpa using hn, ?_, readable_single (by decide) hv⟩
    simpa using Body.negatedValue (isValue_of_boundValue? hv)
  | @negation negated n second third more c hn hsecond _ ih =>
    obtain ⟨nots, body, hwords, hnots, hbody, hread⟩ := ih (by simpa using hsecond)
    refine ⟨n :: nots, body, by rw [hwords]; rfl, ?_, by simpa using hbody, hread⟩
    intro t ht
    rcases List.mem_cons.mp ht with rfl | ht
    · exact hn
    · exact hnots t ht

/-! ## Section 4: Words of that form are accepted -/

theorem ValueList.derives {vs : List FilterToken} (h : ValueList vs)
    (hread : ∀ t ∈ vs, t.kind = .number → ∃ p, Param.ofNumber? t.text = some p) :
    ∃ ps, ListDerives vs ps := by
  induction h with
  | @last v close hv hclose =>
    obtain ⟨p, hp⟩ := boundValue?_of_isValue .inList hv fun _ => hread v (by simp)
    exact ⟨[p], .last hp hclose⟩
  | @more v comma rest hv hcomma _ ih =>
    obtain ⟨p, hp⟩ := boundValue?_of_isValue .inList hv fun _ => hread v (by simp)
    obtain ⟨ps, hps⟩ := ih fun t ht => hread t (by simp [ht])
    exact ⟨p :: ps, .more hp hcomma hps⟩

/-- The operand of a readable pair has a value. -/
theorem boundValue?_of_readable {o v : FilterToken} (hv : v.kind.isValue = true)
    (hread : Readable [o, v]) : ∃ p, boundValue? o.kind v = some p :=
  boundValue?_of_isValue o.kind hv fun hlike => hread (by simpa using hlike) v (by simp)

theorem derives_equality {key : String} {negated : Bool} {o v : FilterToken}
    (ho : o.kind = .equalTo) (hv : v.kind.isValue = true) (hread : Readable [o, v]) :
    ∃ c, Derives key negated [o, v] c := by
  obtain ⟨p, hp⟩ := boundValue?_of_readable hv hread
  rw [ho] at hp
  exact ⟨_, .equality ho hp⟩

theorem derives_membership {key : String} {negated : Bool} {w bracket : FilterToken}
    {vs : List FilterToken} (hw : w.kind = .inList) (hb : bracket.kind = .openBracket)
    (hvs : ValueList vs) (hread : Readable (w :: bracket :: vs)) :
    ∃ c, Derives key negated (w :: bracket :: vs) c := by
  have hlike : ∀ first ∈ (w :: bracket :: vs).head?, first.kind ≠ .like := by simp [hw]
  obtain ⟨ps, hps⟩ := hvs.derives fun t ht => hread hlike t (by simp [ht])
  exact ⟨_, .membership hw hb hps⟩

/-- A readable body is accepted by itself. -/
theorem Body.derives {key : String} {body : List FilterToken} (h : Body false body)
    (hread : Readable body) : ∃ c, Derives key false body c := by
  cases h with
  | equality ho hv => exact derives_equality ho hv hread
  | membership hw hb hvs => exact derives_membership hw hb hvs hread
  | @number v hk =>
    obtain ⟨p, hp⟩ := boundValue?_of_isValue .number (by rw [hk]; rfl)
      fun _ => hread (by simp [hk]) v (by simp)
    exact ⟨_, .number hk hp⟩
  | @comparison o v ho hv =>
    obtain ⟨operator, hop⟩ := FilterWord.sqlOperator?_of_isOrdering ho
    obtain ⟨p, hp⟩ := boundValue?_of_readable hv hread
    exact ⟨_, .comparison ho hop hp⟩
  | @search o v ho hv =>
    obtain ⟨p, hp⟩ := boundValue?_of_readable hv hread
    rw [ho] at hp
    exact ⟨_, .search ho hp⟩

theorem Body.ne_nil {negated : Bool} {body : List FilterToken} (h : Body negated body) :
    body ≠ [] := by
  intro hnil
  rw [hnil] at h
  cases h

/-- A readable body is accepted behind one negation. -/
theorem Body.derives_negated {key : String} {body : List FilterToken} (h : Body true body)
    (hread : Readable body) {n : FilterToken} (hn : n.kind = .negation) (negated : Bool) :
    ∃ c, Derives key negated (n :: body) c := by
  cases h with
  | equality ho hv =>
    obtain ⟨c, hc⟩ : ∃ c, Derives key true _ c := derives_equality ho hv hread
    exact ⟨_, .negation hn (by simp [ho]) hc⟩
  | membership hw hb hvs =>
    obtain ⟨c, hc⟩ : ∃ c, Derives key true _ c := derives_membership hw hb hvs hread
    exact ⟨_, .negation hn (by simp [hw]) hc⟩
  | @negatedValue v hv =>
    -- a lone value is no `~`, so that it can be read
    have hlike : v.kind ≠ .like := FilterWord.ne_of_test FilterWord.isValue hv rfl
    obtain ⟨p, hp⟩ := boundValue?_of_isValue .negation hv
      fun _ => hread (by simpa using hlike) v (by simp)
    exact ⟨_, .negatedValue hn hp⟩

/-- A readable body is accepted behind any number of negations. -/
theorem Body.derives_behind {key : String} {body : List FilterToken} (h : Body true body)
    (hread : Readable body) (nots : List FilterToken) (hnots : ∀ t ∈ nots, t.kind = .negation)
    {n : FilterToken} (hn : n.kind = .negation) (negated : Bool) :
    ∃ c, Derives key negated (n :: (nots ++ body)) c := by
  induction nots generalizing n negated with
  | nil => exact h.derives_negated hread hn negated
  | cons second nots ih =>
    have hsecond : second.kind = .negation := hnots second (by simp)
    obtain ⟨c, hc⟩ := ih (fun t ht => hnots t (by simp [ht])) hsecond true
    have hne : nots ++ body ≠ [] := by simp [h.ne_nil]
    obtain ⟨third, more, hmore⟩ := List.exists_cons_of_ne_nil hne
    have hlike : second.kind ≠ .like := by simp [hsecond]
    rw [hmore] at hc
    rw [List.cons_append, hmore]
    exact ⟨_, .negation hn hlike hc⟩

/-! ## Section 5: The grammar is exact -/

/-- Words are accepted by the rules, or there are none, if and only if they have the form
of the grammar. -/
theorem exists_derives_iff {key : String} {words : List FilterToken} :
    (words = [] ∨ ∃ c, Derives key false words c) ↔ Accepted words := by
  constructor
  · rintro (hnil | ⟨c, h⟩)
    · exact Or.inl hnil
    · obtain ⟨nots, body, hwords, hnots, hbody, hread⟩ := h.accepted (by simp)
      exact Or.inr ⟨nots, body, hwords, hnots, by simpa using hbody, hread⟩
  · rintro (hnil | ⟨nots, body, rfl, hnots, hbody, hread⟩)
    · exact Or.inl hnil
    · cases nots with
      | nil => exact Or.inr (Body.derives hbody hread)
      | cons n nots =>
        exact Or.inr (hbody.derives_behind hread nots (fun t ht => hnots t (by simp [ht]))
          (hnots n (by simp)) false)

/-- The values of an accepted filter are bound in order. -/
theorem ofTokens_params {key filter : String} {words : List FilterToken} {c : Condition}
    (h : ofTokens key filter words = .ok c) : c.params.map some = boundValues words := by
  rcases ofTokens_ok_iff.mp h with ⟨rfl, rfl⟩ | hd
  · rfl
  · exact hd.params_eq.symm

/-- Words say something if and only if they have the form of the grammar. -/
theorem exists_ofTokens_iff {key filter : String} {words : List FilterToken} :
    (∃ c, ofTokens key filter words = .ok c) ↔ Accepted words := by
  have hiff : (words = [] ∨ ∃ c, Derives key false words c) ↔ Accepted words :=
    exists_derives_iff
  rw [← hiff]
  constructor
  · rintro ⟨c, h⟩
    rcases ofTokens_ok_iff.mp h with ⟨hnil, -⟩ | hd
    · exact Or.inl hnil
    · exact Or.inr ⟨c, hd⟩
  · rintro (hnil | ⟨c, hd⟩)
    · exact ⟨.always, ofTokens_ok_iff.mpr (Or.inl ⟨hnil, rfl⟩)⟩
    · exact ⟨c, ofTokens_ok_iff.mpr (Or.inr hd)⟩

/-- **The grammar is exact.** Words are accepted if and only if there are none, or they
are negations and a body whose numbers can be read; and then every value word is bound,
in order, and nothing else. -/
theorem ofTokens_ok_iff_accepted (key filter : String) (words : List FilterToken) :
    ((∃ c, ofTokens key filter words = .ok c) ↔ Accepted words) ∧
      ∀ c, ofTokens key filter words = .ok c → c.params.map some = boundValues words :=
  ⟨exists_ofTokens_iff, fun _ h => ofTokens_params h⟩

end PropertyFilter.Predicate
