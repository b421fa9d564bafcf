import Mathlib.Data.List.Chain
import PropertyFilter.Proofs.Predicate.Derivation

/-!
  # The expressions of predicates

  An expression holds one placeholder for each value. Placeholders stand apart: what
  is right before one is a space, an opening bracket, a comma or `!`, and what is right
  behind one is a space, a comma or a closing bracket. Besides the characters of the
  key an expression is made of those of a small alphabet.

      Placed n cs      n placeholders, all of them apart
      MadeOf key cs    characters of the key and of the alphabet

  Main statements: both hold of the expression of every derivation (`Derives.placed`,
  `Derives.madeOf`).
-/

namespace PropertyFilter.Predicate

/-! ## Section 1: Placeholders that stand apart -/

/-- What stands right before a placeholder. -/
def mayPrecede (c : Char) : Bool := c ∈ [' ', '(', ',', '!']

/-- What stands right behind a placeholder. -/
def mayFollow (c : Char) : Bool := c ∈ [' ', ',', ')']

/-- Two neighbours, of which either may be a placeholder. -/
def Apart (a b : Char) : Prop :=
  (b = '?' → mayPrecede a = true) ∧ (a = '?' → mayFollow b = true)

instance (a b : Char) : Decidable (Apart a b) := inferInstanceAs (Decidable (_ ∧ _))

/-- A text with `n` placeholders, all of them apart from each other and from the rest. -/
structure Placed (n : Nat) (cs : List Char) : Prop where
  count : cs.count '?' = n
  apart : cs.IsChain Apart

instance (n : Nat) (cs : List Char) : Decidable (Placed n cs) :=
  decidable_of_iff (cs.count '?' = n ∧ cs.IsChain Apart)
    ⟨fun h => ⟨h.1, h.2⟩, fun h => ⟨h.count, h.apart⟩⟩

/-- Anything may stand behind a character that may stand before a placeholder. -/
theorem apart_of_mayPrecede {a : Char} (h : mayPrecede a = true) (b : Char) : Apart a b := by
  refine ⟨fun _ => h, ?_⟩
  rintro rfl
  simp [mayPrecede] at h

/-- Anything may stand before a character that may stand behind a placeholder. -/
theorem apart_of_mayFollow (a : Char) {b : Char} (h : mayFollow b = true) : Apart a b := by
  refine ⟨?_, fun _ => h⟩
  rintro rfl
  simp [mayFollow] at h

/-- Without a placeholder nothing is asked of the characters. -/
theorem Placed.of_notMem {cs : List Char} (h : '?' ∉ cs) : Placed 0 cs := by
  refine ⟨List.count_eq_zero.mpr h, ?_⟩
  induction cs with
  | nil => exact .nil
  | cons c cs ih =>
    have hc : c ≠ '?' := fun hc => h (by simp [hc])
    have hcs : '?' ∉ cs := fun hcs => h (by simp [hcs])
    rw [List.isChain_cons]
    refine ⟨?_, ih hcs⟩
    -- neither of two neighbours is a placeholder
    intro d hd
    have hd : d ≠ '?' := by
      rintro rfl
      exact hcs (List.mem_of_mem_head? hd)
    exact ⟨fun h => absurd h hd, fun h => absurd h hc⟩

theorem Placed.append {m n : Nat} {a b : List Char} (ha : Placed m a) (hb : Placed n b)
    (hjoin : a.getLast?.all mayPrecede = true ∨ b.head?.all mayFollow = true) :
    Placed (m + n) (a ++ b) := by
  refine ⟨by rw [List.count_append, ha.count, hb.count], ?_⟩
  rw [List.isChain_append]
  refine ⟨ha.apart, hb.apart, ?_⟩
  -- one of the two characters at the join is no obstacle to any other
  intro x hx y hy
  rcases hjoin with hprecede | hfollow
  · exact apart_of_mayPrecede ((Option.all_eq_true _ _).mp hprecede x hx) y
  · exact apart_of_mayFollow x ((Option.all_eq_true _ _).mp hfollow y hy)

/-- A text without placeholders, then one that begins with what may stand behind one:
so the key stands in front of an expression. -/
theorem Placed.key_append {n : Nat} {key b : List Char} (hkey : '?' ∉ key) (hb : Placed n b)
    (hfollow : b.head?.all mayFollow = true) : Placed n (key ++ b) := by
  have h := (Placed.of_notMem hkey).append hb (Or.inr hfollow)
  rwa [Nat.zero_add] at h

/-- A text without placeholders that ends with what may stand before one: so a sign
stands in front of an expression. -/
theorem Placed.sign_append {n : Nat} {sign b : List Char} (hsign : '?' ∉ sign)
    (hb : Placed n b) (hprecede : sign.getLast?.all mayPrecede = true) :
    Placed n (sign ++ b) := by
  have h := (Placed.of_notMem hsign).append hb (Or.inl hprecede)
  rwa [Nat.zero_add] at h

/-- A list of placeholders has commas between them. -/
theorem placed_placeholders (params : List Param) :
    Placed params.length (placeholders params).toList := by
  induction params with
  | nil => decide
  | cons p ps ih =>
    cases ps with
    | nil =>
      have htext : (placeholders [p]).toList = ['?'] := by simp [placeholders]
      rw [htext]
      show Placed 1 ['?']
      decide
    | cons q qs =>
      have htext : (placeholders (p :: q :: qs)).toList =
          ['?', ','] ++ (placeholders (q :: qs)).toList := by
        simp [placeholders, String.intercalate_cons_cons]
      have hfront : Placed 1 ['?', ','] := by decide
      rw [htext, List.length_cons, Nat.add_comm]
      exact hfront.append ih (Or.inl (by decide))

/-! ## Section 2: One placeholder for each value -/

/-- The spellings of the words that have one. -/
def sqlOperators : List String := ["=", ">", ">=", "<", "<=", "!"]

theorem mem_sqlOperators {o : FilterWord} {operator : String}
    (hop : o.sqlOperator? = some operator) : operator ∈ sqlOperators := by
  cases o with
  | equalTo | greaterThan | greaterOrEqual | lessThan | lessOrEqual | negation =>
    cases hop
    decide
  | _ => cases hop

section placed
variable {key : String}

/-- A fixed text behind the key. -/
theorem placed_behind_key (hkey : '?' ∉ key.toList) {n : Nat} {text : String}
    (h : Placed n text.toList) (hfollow : text.toList.head?.all mayFollow = true) :
    Placed n (key ++ text).toList := by
  rw [String.toList_append]
  exact .key_append hkey h hfollow

theorem placed_value (hkey : '?' ∉ key.toList) : Placed 1 (key ++ " = ?").toList :=
  placed_behind_key hkey (by decide) (by decide)

theorem placed_negatedValue (hkey : '?' ∉ key.toList) : Placed 1 (key ++ " = !?").toList :=
  placed_behind_key hkey (by decide) (by decide)

/-- An operator and a placeholder, with or without the key. -/
theorem placed_operatorText (hkey : '?' ∉ key.toList) (negated : Bool) :
    Placed 1 (operatorText key negated "=").toList := by
  cases negated with
  | true =>
    have htext : operatorText key true "=" = "= ?" := rfl
    rw [htext]
    decide
  | false =>
    have htext : (operatorText key false "=").toList = (key ++ " = ?").toList := by
      simp [operatorText]
    rw [htext]
    exact placed_value hkey

theorem placed_equalityText (hkey : '?' ∉ key.toList) (negated : Bool) (v : FilterToken) :
    Placed 1 (equalityText key negated v).toList := by
  unfold equalityText
  by_cases hpattern : hasPattern v = true
  · rw [if_pos hpattern]
    cases negated with
    | true =>
      rw [if_pos rfl]
      decide
    | false =>
      rw [if_neg (by decide)]
      exact placed_behind_key hkey (by decide) (by decide)
  · rw [if_neg hpattern]
    exact placed_operatorText hkey negated

theorem placed_comparison (hkey : '?' ∉ key.toList) {o : FilterWord} {operator : String}
    (hop : o.sqlOperator? = some operator) :
    Placed 1 (key ++ " " ++ operator ++ " ?").toList := by
  -- no spelling holds a placeholder of its own
  have hspellings : ∀ operator ∈ sqlOperators,
      Placed 1 (" " ++ operator ++ " ?").toList ∧
        (" " ++ operator ++ " ?").toList.head?.all mayFollow = true := by
    decide
  obtain ⟨hplaced, hfollow⟩ := hspellings operator (mem_sqlOperators hop)
  have htext : key ++ " " ++ operator ++ " ?" = key ++ (" " ++ operator ++ " ?") := by
    simp only [String.append_assoc]
  rw [htext]
  exact placed_behind_key hkey hplaced hfollow

theorem placed_searchText (hkey : '?' ∉ key.toList) (v : FilterToken) :
    Placed 1 (searchText key v).toList := by
  unfold searchText
  by_cases hk : v.kind = .number
  · have htext : ("cast(" ++ key ++ " as varchar(32)) like ?").toList =
        "cast(".toList ++ (key ++ " as varchar(32)) like ?").toList := by simp
    have hbehind : Placed 1 (key ++ " as varchar(32)) like ?").toList :=
      placed_behind_key hkey (by decide) (by decide)
    rw [if_pos hk, htext]
    exact .sign_append (by decide) hbehind (by decide)
  · rw [if_neg hk]
    exact placed_behind_key hkey (by decide) (by decide)

theorem placed_membershipText (hkey : '?' ∉ key.toList) (negated : Bool)
    (params : List Param) : Placed params.length (membershipText key negated params).toList := by
  have hclose : Placed 0 [')'] := by decide
  have hlist : Placed params.length ((placeholders params).toList ++ [')']) :=
    (placed_placeholders params).append hclose (Or.inr (by decide))
  cases negated with
  | true =>
    have htext : (membershipText key true params).toList =
        "not in(".toList ++ ((placeholders params).toList ++ [')']) := by simp [membershipText]
    rw [htext]
    exact .sign_append (by decide) hlist (by decide)
  | false =>
    have htext : (membershipText key false params).toList =
        key.toList ++ (" in(".toList ++ ((placeholders params).toList ++ [')'])) := by
      simp [membershipText]
    have hbehind : Placed params.length
        (" in(".toList ++ ((placeholders params).toList ++ [')'])) :=
      .sign_append (by decide) hlist (by decide)
    rw [htext]
    exact .key_append hkey hbehind rfl

theorem placed_negate (hkey : '?' ∉ key.toList) {n : Nat} {c : Condition}
    (hc : Placed n c.expression.toList) : Placed n (negate key c).expression.toList := by
  -- a space stands behind the key, whether a sign follows or not
  have hsign (sign : List Char) (h : '?' ∉ ' ' :: sign)
      (hlast : (' ' :: sign).getLast?.all mayPrecede = true) :
      Placed n (key.toList ++ (' ' :: sign ++ c.expression.toList)) :=
    .key_append hkey (.sign_append h hc hlast) rfl
  unfold negate
  dsimp only
  split
  · simpa using hsign [] (by decide) (by decide)
  · simpa using hsign ['!'] (by decide) (by decide)

/-- **One placeholder for each value**: the expression of a predicate about a key without
`?` has as many placeholders as it binds values, and they stand apart. -/
theorem Derives.placed (hkey : '?' ∉ key.toList) {negated : Bool} {words : List FilterToken}
    {c : Condition} (h : Derives key negated words c) :
    Placed c.params.length c.expression.toList := by
  induction h with
  | equality => exact placed_equalityText hkey _ _
  | comparison _ hop => exact placed_comparison hkey hop
  | search => exact placed_searchText hkey _
  | membership => exact placed_membershipText hkey _ _
  | number => exact placed_value hkey
  | negatedValue => exact placed_negatedValue hkey
  | negation _ _ _ ih => exact placed_negate hkey ih

end placed

/-! ## Section 3: Characters of an expression -/

/-- The characters of an expression that are not of its key. -/
def alphabet : List Char :=
  [' ', '?', '=', '!', '<', '>', '(', ')', ',', '3', '2', 'a', 'c', 'e', 'h', 'i', 'k', 'l',
    'n', 'o', 'r', 's', 't', 'v', 'A', 'D', 'N', 'O', 'R']

/-- Every character of the text is one of the key or of the alphabet. -/
def MadeOf (key text : String) : Prop :=
  ∀ x ∈ text.toList, x ∈ key.toList ∨ x ∈ alphabet

section madeOf
variable {key : String}

theorem madeOf_key : MadeOf key key := fun _ hx => Or.inl hx

theorem MadeOf.append {a b : String} (ha : MadeOf key a) (hb : MadeOf key b) :
    MadeOf key (a ++ b) := by
  intro x hx
  rw [String.toList_append, List.mem_append] at hx
  rcases hx with hx | hx
  · exact ha x hx
  · exact hb x hx

theorem MadeOf.ite {a b : String} (ha : MadeOf key a) (hb : MadeOf key b) (test : Prop)
    [Decidable test] : MadeOf key (if test then a else b) := by
  split
  · exact ha
  · exact hb

/-- A fixed piece of an expression. -/
theorem madeOf_piece {text : String} (h : text.toList.all (alphabet.contains ·) = true) :
    MadeOf key text := by
  intro x hx
  have hcontains := List.all_eq_true.mp h x hx
  exact Or.inr (List.contains_iff_mem.mp hcontains)

/-- The key and a fixed piece behind it. -/
theorem madeOf_behind_key {text : String}
    (h : text.toList.all (alphabet.contains ·) = true) : MadeOf key (key ++ text) :=
  .append madeOf_key (madeOf_piece h)

theorem madeOf_placeholders (params : List Param) : MadeOf key (placeholders params) := by
  induction params with
  | nil => exact madeOf_piece (by decide)
  | cons p ps ih =>
    cases ps with
    | nil =>
      have htext : placeholders [p] = "?" := by simp [placeholders]
      rw [htext]
      exact madeOf_piece (by decide)
    | cons q qs =>
      have htext : placeholders (p :: q :: qs) = "?" ++ "," ++ placeholders (q :: qs) := by
        simp [placeholders, String.intercalate_cons_cons]
      rw [htext]
      exact .append (madeOf_piece (by decide)) ih

theorem madeOf_operator {o : FilterWord} {operator : String}
    (hop : o.sqlOperator? = some operator) : MadeOf key operator := by
  have hspellings : ∀ operator ∈ sqlOperators,
      operator.toList.all (alphabet.contains ·) = true := by
    decide
  exact madeOf_piece (hspellings operator (mem_sqlOperators hop))

theorem madeOf_equalityText (negated : Bool) (v : FilterToken) :
    MadeOf key (equalityText key negated v) := by
  have hsubject : MadeOf key (if negated then "not" else key) :=
    .ite (madeOf_piece (by decide)) madeOf_key _
  have hfront : MadeOf key (if negated then "" else key ++ " ") :=
    .ite (madeOf_piece (by decide)) (madeOf_behind_key (by decide)) _
  unfold equalityText
  apply MadeOf.ite
  · exact .append hsubject (madeOf_piece (by decide))
  · exact .append (.append hfront (madeOf_piece (by decide))) (madeOf_piece (by decide))

theorem madeOf_searchText (v : FilterToken) : MadeOf key (searchText key v) := by
  have hcast : MadeOf key ("cast(" ++ key) := .append (madeOf_piece (by decide)) madeOf_key
  unfold searchText
  apply MadeOf.ite
  · exact .append hcast (madeOf_piece (by decide))
  · exact madeOf_behind_key (by decide)

theorem madeOf_membershipText (negated : Bool) (params : List Param) :
    MadeOf key (membershipText key negated params) := by
  have hfront : MadeOf key (if negated then "not in(" else key ++ " in(") :=
    .ite (madeOf_piece (by decide)) (madeOf_behind_key (by decide)) _
  exact .append (.append hfront (madeOf_placeholders params)) (madeOf_piece (by decide))

theorem madeOf_negate {c : Condition} (hc : MadeOf key c.expression) :
    MadeOf key (negate key c).expression := by
  have hsign (test : Prop) [Decidable test] : MadeOf key (if test then "" else "!") :=
    .ite (madeOf_piece (by decide)) (madeOf_piece (by decide)) test
  exact .append (.append (madeOf_behind_key (by decide)) (hsign _)) hc

/-- **No character of an operand reaches an expression**: there are those of the key and
of the alphabet only. -/
theorem Derives.madeOf {negated : Bool} {words : List FilterToken} {c : Condition}
    (h : Derives key negated words c) : MadeOf key c.expression := by
  induction h with
  | equality => exact madeOf_equalityText _ _
  | @comparison o v operator p _ hop _ =>
    have hfront : MadeOf key (key ++ " ") := madeOf_behind_key (by decide)
    exact .append (.append hfront (madeOf_operator hop)) (madeOf_piece (by decide))
  | search => exact madeOf_searchText _
  | membership => exact madeOf_membershipText _ _
  | number => exact madeOf_behind_key (by decide)
  | negatedValue => exact madeOf_behind_key (by decide)
  | negation _ _ _ ih => exact madeOf_negate ih

end madeOf

end PropertyFilter.Predicate
