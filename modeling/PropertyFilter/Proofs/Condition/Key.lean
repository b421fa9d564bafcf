import PropertyFilter.Proofs.Condition.Compound
import PropertyFilter.Proofs.Predicate.Key

/-!
  # The key of a conversion

  A filter is converted in the same way for every key that names a property: it is refused for
  all of them with one fault, or accepted for all of them with one list of values and with the
  key in the same places of the expression.

      >5+!in(1)      ""   " > ? AND "   " not in(?)"
      Sample         ""   " = ?"

  The pieces of two operands are joined at their ends, where no sign stands, so that the sign
  between two keys is again the one place at which a key can make a difference.

  Main statement: what a filter is converted to depends on the key by its places alone, but for
  keys that say `not` behind nested negations (`convert_uniform`).
-/

namespace PropertyFilter

open Predicate Conversion

/-! ## Section 1: Pieces of two operands -/

/-- What becomes of the pieces for a key becomes of each of them, and only signs change. -/
theorem Predicate.piecesFor_eq_map (key : String) :
    ∃ f : String → String, (∀ pieces, piecesFor key pieces = pieces.map f) ∧
      ∀ piece, piece ≠ " !" → f piece = piece := by
  unfold piecesFor
  cases keySaysNot key with
  | true => exact ⟨unsigned, fun _ => rfl, fun _ => unsigned_of_ne⟩
  | false => exact ⟨id, fun pieces => (List.map_id pieces).symm, fun _ _ => rfl⟩

/-- Two texts of pieces with a text between them are a text of pieces. -/
theorem intercalate_joined (key p joint q : String) (front back : List String) :
    key.intercalate (front ++ (p ++ joint ++ q) :: back) =
      key.intercalate (front ++ [p]) ++ joint ++ key.intercalate (q :: back) := by
  have hjoint : key.intercalate ((p ++ joint ++ q) :: back) =
      p ++ joint ++ key.intercalate (q :: back) := String.intercalate_cons_append
  by_cases hfront : front = []
  · simp only [hfront, List.nil_append, hjoint, String.intercalate_singleton]
  · rw [String.intercalate_append_of_ne_nil hfront (by simp),
      String.intercalate_append_of_ne_nil hfront (by simp), hjoint, String.intercalate_singleton]
    simp only [String.append_assoc]

theorem Connective.joined_ne_sign (c : Connective) (p q : String) : p ++ c.spaced ++ q ≠ " !" := by
  intro hsign
  have hlength := congrArg (fun piece => piece.toList.length) hsign
  cases c <;> simp [Connective.spaced, Connective.word] at hlength <;> omega

/-- Framed pieces joined at their ends are framed. -/
theorem Predicate.Framed.joined {p q joint : String} {front back : List String}
    (hfront : Framed (front ++ [p])) (hback : Framed (q :: back)) (hjoint : joint ≠ " !") :
    Framed (front ++ joint :: back) where
  ne_nil := by simp
  first := by
    cases front with
    | nil => simpa using hjoint
    | cons x front => exact hfront.first
  last := by
    cases back with
    | nil => simpa using hjoint
    | cons x back =>
      rw [List.getLast?_append_cons, List.getLast?_cons_cons]
      have hlast := hback.last
      rwa [List.getLast?_cons_cons] at hlast

/-- **A compound run is uniform** if its two operands are. -/
theorem Predicate.UniformInKey.join {left right : String → Except Fault Condition}
    {nestedLeft nestedRight : Prop} (hleft : UniformInKey nestedLeft left)
    (hright : UniformInKey nestedRight right) (c : Connective) :
    UniformInKey (nestedLeft ∨ nestedRight)
      (fun key => (left key).bind fun l => (right key).map (l.join c ·)) := by
  cases hleft with
  | @fault e hl =>
    refine .fault (e := e) fun key => ?_
    rw [hl]
    rfl
  | pieces ps before hbefore hnestedLeft hl =>
    cases hright with
    | @fault e hr =>
      refine .fault (e := e) fun key => ?_
      rw [hl, hr]
      rfl
    | pieces qs behind hbehind hnestedRight hr =>
      obtain ⟨front, p, rfl⟩ := (List.eq_nil_or_concat' before).resolve_left hbefore.ne_nil
      obtain ⟨q, back, rfl⟩ := List.exists_cons_of_ne_nil hbehind.ne_nil
      have hp : p ≠ " !" := hbefore.last p (by simp)
      have hq : q ≠ " !" := hbehind.first q (by simp)
      have hjoint : p ++ c.spaced ++ q ≠ " !" := c.joined_ne_sign p q
      -- the last piece of the left operand and the first of the right one become one piece
      refine .pieces (ps ++ qs) _ (hbefore.joined hbehind hjoint) ?_ ?_
      · intro hsign
        -- a sign between two keys was one in front of the connective, or behind it
        rcases List.mem_append.mp hsign with hsign | hsign
        · exact Or.inl (hnestedLeft (by simp [hsign]))
        · rcases List.mem_cons.mp hsign with hsign | hsign
          · exact absurd hsign.symm hjoint
          · exact Or.inr (hnestedRight (by simp [hsign]))
      · intro key
        obtain ⟨f, hmap, hkept⟩ := piecesFor_eq_map key
        have htext := intercalate_joined key p c.spaced q (front.map f) (back.map f)
        simp only [hl, hr, hmap, List.map_append, List.map_cons, List.map_nil, hkept p hp,
          hkept q hq, hkept _ hjoint, htext]
        rfl

/-! ## Section 2: Runs of a conversion -/

/-- `OperandOf value text`: the filter `value` is converted by converting `text`. -/
inductive OperandOf (value : String) : String → Prop
  | whole : Unsplit value → OperandOf value value
  | left {tokens : List SplitToken} {filter : Compound} :
      splitTokens value = .ok tokens → Compound.ofTokens? tokens = some filter →
      OperandOf value filter.left
  | right {tokens : List SplitToken} {filter : Compound} :
      splitTokens value = .ok tokens → Compound.ofTokens? tokens = some filter →
      OperandOf value filter.right

/-- Does an operand begin with several negations? -/
def NestsNegations (text : String) : Prop :=
  ∃ words, filterTokens text = .ok words ∧ 2 ≤ leadingNegations words

/-- A literal is the key, and behind it one piece. -/
theorem literal_uniform (nested : Prop) (value : String) :
    UniformInKey nested (fun key => .ok (literal key value)) := by
  refine .pieces [.text value] ["", " = ?"]
    (framed_pair (by decide) (by decide)) (by simp) fun key => ?_
  rw [piecesFor_of_notMem (by simp), String.intercalate_cons_cons, String.intercalate_singleton,
    String.empty_append, literal]

theorem Predicate.UniformInKey.mono {nested more : Prop} {run : String → Except Fault Condition}
    (h : UniformInKey nested run) (hmore : nested → more) : UniformInKey more run := by
  cases h with
  | fault he => exact .fault he
  | pieces params ps hframed hnested hok =>
    exact .pieces params ps hframed (fun hsign => hmore (hnested hsign)) hok

theorem simple_uniform (text : String) :
    UniformInKey (NestsNegations text) (fun key => (simple key text).result) := by
  simp only [simple_result]
  cases hwords : filterTokens text with
  | error e => exact literal_uniform _ text
  | ok words => exact (ofTokens_uniform text words).mono fun hmany => ⟨words, hwords, hmany⟩

theorem convert_uniformInKey (value : String) :
    UniformInKey (∃ text, OperandOf value text ∧ NestsNegations text)
      (fun key => convert (.name key) value) := by
  cases hs : splitTokens value with
  | error e =>
    have hliteral (key : String) : convert (.name key) value = .ok (literal key value) :=
      convert_ok_iff.mpr (.literal hs)
    simp only [hliteral]
    exact literal_uniform _ value
  | ok tokens =>
    cases hf : Compound.ofTokens? tokens with
    | none =>
      have hsplit : Unsplit value := ⟨tokens, hs, hf⟩
      simp only [hsplit.convert_eq]
      exact (simple_uniform value).mono fun hnested => ⟨value, .whole hsplit, hnested⟩
    | some filter =>
      simp only [convert_of_compound hs hf]
      refine ((simple_uniform filter.left).join (simple_uniform filter.right)
        filter.connective).mono ?_
      rintro (hnested | hnested)
      · exact ⟨filter.left, .left hs hf, hnested⟩
      · exact ⟨filter.right, .right hs hf, hnested⟩

/-- **Conversion and the key.** A filter has one fault for all keys, or for all keys one list of
values and one list of pieces with the key between them; a key that says `not` loses the signs
that stand between two keys, and there are such signs only if an operand of the filter begins
with several negations. -/
theorem convert_uniform (value : String) :
    (∃ fault, ∀ key, convert (.name key) value = .error fault) ∨
      ∃ params pieces,
        (∀ key, convert (.name key) value =
          .ok ⟨key.intercalate (if keySaysNot key then pieces.map unsigned else pieces), params⟩) ∧
        (" !" ∈ pieces → ∃ text, OperandOf value text ∧ NestsNegations text) := by
  cases convert_uniformInKey value with
  | fault he => exact Or.inl ⟨_, he⟩
  | pieces _ _ _ hnested hok => exact Or.inr ⟨_, _, hok, hnested⟩

/-! ## Section 3: A key that says `not` -/

/-- With each place of a key a text of pieces grows by the length of the key. -/
theorem exists_length_intercalate (pieces : List String) :
    ∃ size places, ∀ key : String,
      (key.intercalate pieces).length = size + places * key.length := by
  induction pieces with
  | nil => exact ⟨0, 0, by simp⟩
  | cons piece pieces ih =>
    by_cases hnil : pieces = []
    · subst hnil
      exact ⟨piece.length, 0, by simp⟩
    · obtain ⟨size, places, hlength⟩ := ih
      refine ⟨piece.length + size, places + 1, fun key => ?_⟩
      rw [String.intercalate_cons_of_ne_nil hnil, String.length_append, String.length_append,
        hlength, Nat.succ_mul]
      omega

/-- Two negations and a key that holds `not in`: the sign is there for one key and missing for
the other, so that no pieces are right for both. -/
theorem convert_key_saying_not :
    convert (.name "property") "!!=5" = .ok ⟨"property !property != ?", [.int 5]⟩ ∧
      convert (.name "not in stock") "!!=5" =
        .ok ⟨"not in stock not in stock != ?", [.int 5]⟩ ∧
      ¬∃ pieces params, ∀ key, convert (.name key) "!!=5" = .ok ⟨key.intercalate pieces, params⟩ := by
  have hproperty : convert (.name "property") "!!=5" =
      .ok ⟨"property !property != ?", [.int 5]⟩ := by
    decide +kernel
  have hstock : convert (.name "not in stock") "!!=5" =
      .ok ⟨"not in stock not in stock != ?", [.int 5]⟩ := by
    decide +kernel
  refine ⟨hproperty, hstock, ?_⟩
  rintro ⟨pieces, params, hall⟩
  obtain ⟨size, places, hlength⟩ := exists_length_intercalate pieces
  have hshort : "property !property != ?" = "property".intercalate pieces :=
    congrArg Condition.expression (Except.ok.inj (hproperty.symm.trans (hall "property")))
  have hlong : "not in stock not in stock != ?" = "not in stock".intercalate pieces :=
    congrArg Condition.expression (Except.ok.inj (hstock.symm.trans (hall "not in stock")))
  -- 23 characters with a key of 8, and 30 with a key of 12
  have hfew := hlength "property"
  have hmany := hlength "not in stock"
  rw [← hshort] at hfew
  rw [← hlong] at hmany
  have hsizes : 23 = size + places * 8 ∧ 30 = size + places * 12 := ⟨hfew, hmany⟩
  omega

end PropertyFilter
