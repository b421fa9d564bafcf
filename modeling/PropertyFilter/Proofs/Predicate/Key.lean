import PropertyFilter.Proofs.Predicate.Form
import PropertyFilter.Proofs.Predicate.Refusal

/-!
  # The key in a predicate

  What the words of a filter say is made of fixed pieces with the key between them, and the
  words alone decide what the pieces are:

      =5          ""      " = ?"                     key = ?
      ~5          "cast(" " as varchar(32)) like ?"  cast(key as varchar(32)) like ?
      !!=5        ""      " !"    " != ?"            key !key != ?
      !!in(1)     ""      " "     " not in(?)"       key key not in(?)

  The one place where the key itself has a say is the sign between two keys. A negation looks
  for `not` in the text behind it, and behind a second negation there is a key in this text: if
  that key, with the space behind it, reads like a `not`, the sign is left out (`piecesFor`).

  Main statement: every list of words has one fault for all keys, or one list of pieces and one
  list of values for all keys (`ofTokens_uniform`).
-/

namespace PropertyFilter.Predicate

/-! ## Section 1: Pieces between keys -/

/-- Does a key say `not` to a negation that finds it in the text behind it? -/
def keySaysNot (key : String) : Bool := saysNot (key ++ " ")

/-- What becomes of a piece between two keys that say `not`: a sign is left out. -/
def unsigned (piece : String) : String := if piece = " !" then " " else piece

/-- The pieces that stand around a key. -/
def piecesFor (key : String) (pieces : List String) : List String :=
  if keySaysNot key then pieces.map unsigned else pieces

/-- Pieces of which the outer two are no signs. -/
structure Framed (pieces : List String) : Prop where
  ne_nil : pieces ≠ []
  first : ∀ p ∈ pieces.head?, p ≠ " !"
  last : ∀ p ∈ pieces.getLast?, p ≠ " !"

/-- How a run depends on the key: it has one fault for all keys, or one list of pieces and one
list of values. Where a sign stands between two keys, the negations are nested (`nested`). -/
inductive UniformInKey (nested : Prop) (run : String → Except Fault Condition) : Prop
  | fault {e : Fault} : (∀ key, run key = .error e) → UniformInKey nested run
  | pieces (params : List Param) (pieces : List String) :
      Framed pieces → (" !" ∈ pieces → nested) →
      (∀ key, run key = .ok ⟨key.intercalate (piecesFor key pieces), params⟩) →
      UniformInKey nested run

theorem unsigned_of_ne {piece : String} (h : piece ≠ " !") : unsigned piece = piece := if_neg h

/-- Pieces without a sign are the same for every key. -/
theorem piecesFor_of_notMem {pieces : List String} (h : " !" ∉ pieces) (key : String) :
    piecesFor key pieces = pieces := by
  unfold piecesFor
  split
  · have hsame : ∀ p ∈ pieces, unsigned p = p := by
      intro p hp
      apply unsigned_of_ne
      rintro rfl
      exact h hp
    exact (List.map_congr_left hsame).trans (List.map_id' pieces)
  · rfl

/-- A piece in front of a key and one behind it. -/
theorem framed_pair {front back : String} (hfront : front ≠ " !") (hback : back ≠ " !") :
    Framed [front, back] where
  ne_nil := by simp
  first := by simpa using hfront
  last := by simpa using hback

/-! ## Section 2: One key -/

theorem equalityText_around (v : FilterToken) :
    ∃ back, back ≠ " !" ∧ ∀ key, equalityText key false v = key ++ back := by
  unfold equalityText
  by_cases hpattern : hasPattern v = true
  · refine ⟨" like ?", by decide, fun key => ?_⟩
    rw [if_pos hpattern]
    rfl
  · refine ⟨" = ?", by decide, fun key => ?_⟩
    rw [if_neg hpattern]
    simp [operatorText, String.append_assoc]

theorem searchText_around (v : FilterToken) :
    ∃ front back, front ≠ " !" ∧ back ≠ " !" ∧
      ∀ key, searchText key v = front ++ key ++ back := by
  unfold searchText
  by_cases hk : v.kind = .number
  · refine ⟨"cast(", " as varchar(32)) like ?", by decide, by decide, fun key => ?_⟩
    rw [if_pos hk]
  · refine ⟨"", " like ?", by decide, by decide, fun key => ?_⟩
    rw [if_neg hk, String.empty_append]

theorem membershipText_around (params : List Param) :
    ∃ back, back ≠ " !" ∧ ∀ key, membershipText key false params = key ++ back := by
  refine ⟨" in(" ++ placeholders params ++ ")", ?_, fun key => ?_⟩
  · intro hsign
    simp [← String.toList_inj] at hsign
  · simp [membershipText, String.append_assoc]

/-- **Without a negation** the key stands between two pieces. -/
theorem Derives.exists_around {key : String} {words : List FilterToken} {c : Condition}
    (h : Derives key false words c) (hnone : leadingNegations words = 0) :
    ∃ front back, front ≠ " !" ∧ back ≠ " !" ∧
      ∀ other, Derives other false words ⟨front ++ other ++ back, c.params⟩ := by
  cases h with
  | @equality _ o v p ho hv =>
    obtain ⟨back, hback, htext⟩ := equalityText_around v
    refine ⟨"", back, by decide, hback, fun other => ?_⟩
    rw [String.empty_append, ← htext]
    exact .equality ho hv
  | @comparison o v operator p ho hop hv =>
    have hlast : (" " ++ operator ++ " ?").toList.getLast? = some '?' := by
      rw [String.toList_append, List.getLast?_append]
      rfl
    have hsign : " " ++ operator ++ " ?" ≠ " !" := by
      intro hsign
      rw [hsign] at hlast
      exact absurd hlast (by decide)
    refine ⟨"", " " ++ operator ++ " ?", by decide, hsign, fun other => ?_⟩
    have htext : "" ++ other ++ (" " ++ operator ++ " ?") = other ++ " " ++ operator ++ " ?" := by
      simp [String.append_assoc]
    rw [htext]
    exact .comparison ho hop hv
  | @search _ o v p ho hv =>
    obtain ⟨front, back, hfront, hback, htext⟩ := searchText_around v
    refine ⟨front, back, hfront, hback, fun other => ?_⟩
    rw [← htext]
    exact .search ho hv
  | @membership _ w bracket vs ps hw hb hvs =>
    obtain ⟨back, hback, htext⟩ := membershipText_around ps
    refine ⟨"", back, by decide, hback, fun other => ?_⟩
    rw [String.empty_append, ← htext]
    exact .membership hw hb hvs
  | number hk hv =>
    refine ⟨"", " = ?", by decide, by decide, fun other => ?_⟩
    rw [String.empty_append]
    exact .number hk hv
  | negatedValue hn => simp [leadingNegations_negation _ hn] at hnone
  | negation hn => simp [leadingNegations_negation _ hn] at hnone

/-! ## Section 3: Several keys -/

/-- What stands between two keys in front of a negated predicate. -/
def between (tail : String) : String := if saysNot tail then " " else " !"

/-- The pieces of a negated predicate with a number of keys in front of its own. -/
def negatedPieces (tail : String) (n : Nat) : List String :=
  "" :: (List.replicate n (between tail) ++ [tail])

/-- A text on one side of a character that no `not` holds, and nothing that says `not` on the
other. -/
theorem occursIn_separated {part front back : String} {x : Char} (hx : x ∉ part.toList)
    (hback : occursIn part back = false) :
    occursIn part (front ++ (String.singleton x ++ back)) = occursIn part front := by
  rw [← Bool.not_eq_true, occursIn_iff] at hback
  have htext : (front ++ (String.singleton x ++ back)).toList =
      front.toList ++ x :: back.toList := by
    simp
  rw [Bool.eq_iff_iff, occursIn_iff, occursIn_iff, htext]
  constructor
  · intro h
    exact (infix_of_separator hx h).resolve_right hback
  · intro h
    exact h.trans (List.prefix_append _ _).isInfix

/-- A predicate says `not` if its tail does, or its key. -/
theorem saysNot_behind_key {tail : String} (h : NegatedTail tail) (key : String) :
    saysNot (key ++ tail) = (saysNot tail || keySaysNot key) := by
  cases h with
  | unequal =>
    have htext : key ++ " != ?" = key ++ " " ++ (String.singleton '!' ++ "= ?") := by
      simp [← String.toList_inj]
    have htail : saysNot " != ?" = false := by decide
    rw [htail, Bool.false_or, htext, keySaysNot, saysNot, saysNot,
      occursIn_separated (by decide) (by decide), occursIn_separated (by decide) (by decide)]
  | value =>
    have htext : key ++ " = !?" = key ++ " " ++ (String.singleton '=' ++ " !?") := by
      simp [← String.toList_inj]
    have htail : saysNot " = !?" = false := by decide
    rw [htail, Bool.false_or, htext, keySaysNot, saysNot, saysNot,
      occursIn_separated (by decide) (by decide), occursIn_separated (by decide) (by decide)]
  | notLike =>
    have htail : saysNot " not like ?" = true := by decide
    rw [htail, Bool.true_or, saysNot_append htail]
  | notInList n =>
    have htail : saysNot (" not in(" ++ marks (n + 1) ++ ")") = true := by
      unfold saysNot
      rw [Bool.or_eq_true, occursIn_iff, occursIn_iff]
      refine Or.inr ⟨[' '], '(' :: (marks (n + 1)).toList ++ [')'], ?_⟩
      simp
    rw [htail, Bool.true_or, saysNot_append htail]

/-- A key in front of each of several equal pieces. -/
theorem intercalate_replicate (key piece tail : String) (n : Nat) :
    key.intercalate ("" :: (List.replicate n piece ++ [tail])) =
      String.join (List.replicate n (key ++ piece)) ++ (key ++ tail) := by
  induction n with
  | zero => simp
  | succ n ih =>
    have hpiece : key.intercalate (piece :: (List.replicate n piece ++ [tail])) =
        piece ++ key.intercalate ("" :: (List.replicate n piece ++ [tail])) := by
      rw [← String.intercalate_cons_append, String.append_empty]
    rw [List.replicate_succ, List.replicate_succ, List.cons_append, String.intercalate_cons_cons,
      String.empty_append, hpiece, ih, String.join_cons]
    simp only [String.append_assoc]

theorem NegatedTail.ne_sign {tail : String} (h : NegatedTail tail) : tail ≠ " !" := by
  cases h with
  | unequal | value | notLike => decide
  | notInList n =>
    intro hsign
    simp [← String.toList_inj] at hsign

/-- The keys in front of a negated predicate and the predicate, in pieces. -/
theorem subjects_pieces {tail : String} (h : NegatedTail tail) (key : String) (n : Nat) :
    subjects key (key ++ tail) n ++ (key ++ tail) =
      key.intercalate (piecesFor key (negatedPieces tail n)) := by
  have hpieces : piecesFor key (negatedPieces tail n) =
      "" :: (List.replicate n (" " ++ if saysNot (key ++ tail) then "" else "!") ++ [tail]) := by
    rw [saysNot_behind_key h, piecesFor, negatedPieces, between]
    have hends : unsigned "" = "" ∧ unsigned tail = tail :=
      ⟨unsigned_of_ne (by decide), unsigned_of_ne h.ne_sign⟩
    have hspace : unsigned " " = " " := unsigned_of_ne (by decide)
    have hsign : unsigned " !" = " " := if_pos rfl
    -- the tail decides, and the key if the tail says no `not`
    cases saysNot tail <;> cases keySaysNot key <;> simp [hends, hspace, hsign]
  rw [hpieces, intercalate_replicate, subjects]
  simp only [String.append_assoc]

theorem framed_negatedPieces {tail : String} (h : NegatedTail tail) (n : Nat) :
    Framed (negatedPieces tail n) where
  ne_nil := by simp [negatedPieces]
  first := by simp [negatedPieces]
  last := by
    rw [negatedPieces, ← List.cons_append, List.getLast?_concat]
    simpa using h.ne_sign

/-! ## Section 4: Whole filters -/

/-- **One list of pieces for all keys.** A sign stands between two keys only behind a second
negation. -/
theorem Derives.exists_pieces {key : String} {words : List FilterToken} {c : Condition}
    (h : Derives key false words c) :
    ∃ pieces, Framed pieces ∧ (" !" ∈ pieces → 2 ≤ leadingNegations words) ∧
      ∀ other, Derives other false words ⟨other.intercalate (piecesFor other pieces), c.params⟩ := by
  cases hn : leadingNegations words with
  | zero =>
    obtain ⟨front, back, hfront, hback, haround⟩ := h.exists_around hn
    have hnone : " !" ∉ [front, back] := by simp [hfront.symm, hback.symm]
    refine ⟨[front, back], framed_pair hfront hback, fun hsign => absurd hsign hnone, ?_⟩
    intro other
    rw [piecesFor_of_notMem hnone, String.intercalate_cons_cons, String.intercalate_singleton]
    exact haround other
  | succ n =>
    obtain ⟨tail, htail, hforms⟩ := h.exists_subjects hn
    refine ⟨negatedPieces tail n, framed_negatedPieces htail n, ?_, ?_⟩
    · intro hsign
      cases n with
      | zero => simp [negatedPieces, htail.ne_sign.symm] at hsign
      | succ n => omega
    · intro other
      rw [← subjects_pieces htail]
      exact hforms other

/-- A fault for one key is a fault for every other. -/
theorem ofTokens_error_of_key {key filter : String} {words : List FilterToken} {fault : Fault}
    (h : ofTokens key filter words = .error fault) (other : String) :
    ofTokens other filter words = .error fault := by
  rcases misused_of_ofTokens h with hmisused | rfl
  · exact hmisused.ofTokens_eq
  · cases hother : ofTokens other filter words with
    | ok c =>
      obtain ⟨d, hd⟩ := exists_ofTokens_iff.mpr (exists_ofTokens_iff.mp ⟨c, hother⟩)
      rw [h] at hd
      cases hd
    | error e =>
      rcases misused_of_ofTokens hother with hmisused | rfl
      · exact h ▸ hmisused.ofTokens_eq.symm
      · rfl

/-- **Words say the same of every key.** -/
theorem ofTokens_uniform (filter : String) (words : List FilterToken) :
    UniformInKey (2 ≤ leadingNegations words) (fun key => ofTokens key filter words) := by
  cases h : ofTokens "" filter words with
  | error fault => exact .fault (ofTokens_error_of_key h)
  | ok c =>
    rcases ofTokens_ok_iff.mp h with ⟨rfl, -⟩ | hwords
    · -- no words say the empty condition
      refine .pieces [] [""] ⟨by simp, by simp, by simp⟩ (by simp) ?_
      intro key
      rw [piecesFor_of_notMem (by simp), String.intercalate_singleton]
      rfl
    · obtain ⟨pieces, hframed, hnested, hderives⟩ := hwords.exists_pieces
      exact .pieces _ _ hframed hnested fun key => ofTokens_ok_iff.mpr (Or.inr (hderives key))

end PropertyFilter.Predicate
