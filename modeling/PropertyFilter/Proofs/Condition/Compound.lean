import PropertyFilter.Proofs.Condition.Conversion
import PropertyFilter.Proofs.Condition.Meaning
import PropertyFilter.Proofs.Filter.Outside
import PropertyFilter.Proofs.Filter.Sides

/-!
  # Splitting and conversion

  A conversion first splits the filter at its connectives, and the words are cut afterwards.
  The two read quotes differently: a split knows no empty quoted text, words do. What comes
  of a filter is given here by where its quotes and signs are:

      no sign outside quotes      the filter as one operand, unless it has an empty
                                  quoted text: then it is bound as it is
      two simple filters, a sign  both, joined, if each of them is kept whole by a split;
                                  otherwise the filter is bound as it is
      any three parts, a sign     what the outer two give as filters of their own, joined
                                  in the middle

  Main statements, in this order: `convert_without_sign`, `convert_joined` and
  `convert_compositional`.
-/

namespace PropertyFilter

open Conversion

/-! ## Section 1: Paths of a conversion -/

/-- A filter that is split without an error, and is not compound. -/
def Unsplit (value : String) : Prop :=
  ∃ tokens, splitTokens value = .ok tokens ∧ Compound.ofTokens? tokens = none

section path
variable {key value : String}

theorem simple_result (key value : String) :
    (simple key value).result =
      match filterTokens value with
      | .error _ => .ok (literal key value)
      | .ok tokens => Predicate.ofTokens key value tokens := by
  unfold simple
  cases filterTokens value <;> rfl

/-- A text with a sign outside quotes is not made of words. -/
theorem simple_of_sign (hsign : outerSigns value.toList ≠ []) (key : String) :
    (simple key value).result = .ok (literal key value) := by
  rw [simple_result]
  cases hwords : filterTokens value with
  | error e => rfl
  | ok tokens => exact absurd (words_outside hwords).2 hsign

theorem convertReporting_of_error {e : ScanError} (h : splitTokens value = .error e)
    (key : String) : convertReporting (.name key) value =
      ⟨.ok (literal key value), [.splitFailed key value e]⟩ := by
  show named key value = _
  unfold named
  rw [h]

theorem Unsplit.convertReporting_eq (h : Unsplit value) (key : String) :
    convertReporting (.name key) value = simple key value := by
  obtain ⟨tokens, hs, hf⟩ := h
  show named key value = _
  unfold named
  simp only [hs, hf]

theorem convertReporting_of_compound {tokens : List SplitToken} {filter : Compound}
    (hs : splitTokens value = .ok tokens) (hf : Compound.ofTokens? tokens = some filter) :
    convertReporting (.name key) value = compound key filter := by
  show named key value = _
  unfold named
  simp only [hs, hf]

theorem Unsplit.convert_eq (h : Unsplit value) (key : String) :
    convert (.name key) value = (simple key value).result := by
  unfold convert
  rw [h.convertReporting_eq]

theorem convert_of_compound {tokens : List SplitToken} {filter : Compound}
    (hs : splitTokens value = .ok tokens) (hf : Compound.ofTokens? tokens = some filter) :
    convert (.name key) value =
      (simple key filter.left).result.bind fun l =>
        (simple key filter.right).result.map (l.join filter.connective ·) := by
  unfold convert
  rw [convertReporting_of_compound hs hf, compound_result]

end path

/-! ## Section 2: Filters without a sign -/

/-- A quote that is not closed, or closed at once, cannot be split. -/
theorem splitTokens_error {value : String}
    (h : endsInside false value.toList = true ∨ hasEmptyPair false value.toList = true) :
    ∃ e, splitTokens value = .error e := by
  cases hs : splitTokens value with
  | error e => exact ⟨e, rfl⟩
  | ok tokens =>
    have hpaired := paired_of_cut (splitTokens_ok_iff.mp hs).1
    obtain ⟨hclosed, hnone, -⟩ := hpaired.outside
    rcases h with hends | hpair
    · rw [hends] at hclosed
      cases hclosed
    · rw [hpair] at hnone
      cases hnone

/-- **Without a sign outside quotes** a filter is one operand: the literal if it cannot be cut
into words, the predicate of its words otherwise. A filter with an empty quoted text is always
a literal, since it cannot be split. -/
theorem convert_without_sign (key value : String)
    (hplus : '+' ∉ outsideQuotes false value.toList)
    (hminus : '-' ∉ outsideQuotes false value.toList) :
    convert (.name key) value =
      if hasEmptyPair false value.toList then .ok (literal key value)
      else
        match filterTokens value with
        | .error _ => .ok (literal key value)
        | .ok tokens => Predicate.ofTokens key value tokens := by
  have hsigns : outerSigns value.toList = [] := by
    apply outerSigns_eq_nil
    intro conn
    cases conn with
    | and => exact hplus
    | or => exact hminus
  cases hpair : hasEmptyPair false value.toList with
  | true =>
    obtain ⟨e, he⟩ := splitTokens_error (Or.inr hpair)
    exact convert_ok_iff.mpr (.literal he)
  | false =>
    rw [if_neg (by decide), ← simple_result]
    cases hends : endsInside false value.toList with
    | false =>
      have hpaired : Paired value.toList [] := paired_iff.mpr ⟨hends, hpair, hsigns⟩
      exact Unsplit.convert_eq (splitTokens_of_paired hpaired) key
    | true =>
      -- neither a split nor words get past a quote that is not closed
      obtain ⟨e, he⟩ := splitTokens_error (Or.inl hends)
      rw [convert_ok_iff.mpr (.literal he), simple_result]
      cases hwords : filterTokens value with
      | error e => rfl
      | ok tokens =>
        have hclosed := (words_outside hwords).1
        rw [hends] at hclosed
        cases hclosed

/-- A list with a sign in a quoted text of it: the sign is no connective. -/
theorem convert_without_sign_quoted :
    let value := "in('a+b',2)"
    '+' ∉ outsideQuotes false value.toList ∧ '-' ∉ outsideQuotes false value.toList ∧
      convert (.name "size") value = .ok ⟨"size in(?,?)", [.text "a+b", .int 2]⟩ := by
  intro value
  have hplus : '+' ∉ outsideQuotes false value.toList := by decide
  have hminus : '-' ∉ outsideQuotes false value.toList := by decide
  have hconvert := convert_without_sign "size" value hplus hminus
  refine ⟨hplus, hminus, hconvert.trans ?_⟩
  decide +kernel

/-- The empty text behind an operator is a word, but the filter is bound as it is. -/
theorem convert_empty_text :
    let value := "=''"
    '+' ∉ outsideQuotes false value.toList ∧ '-' ∉ outsideQuotes false value.toList ∧
      (∃ tokens, filterTokens value = .ok tokens ∧
        Predicate.ofTokens "property" value tokens = .ok ⟨"property = ?", [.text ""]⟩) ∧
      convert (.name "property") value = .ok ⟨"property = ?", [.text "=''"]⟩ := by
  intro value
  have hwords : filterTokens value =
      .ok [⟨.equalTo, "=", ⟨0, 1⟩⟩, ⟨.quoted, "''", ⟨1, 3⟩⟩] := by
    decide +kernel
  refine ⟨by decide, by decide, ⟨_, hwords, ?_⟩, ?_⟩
  all_goals decide +kernel

/-! ## Section 3: Two simple filters -/

/-- The SQL word of a connective, with a space on either side. -/
theorem Connective.spaced_eq (c : Connective) :
    c.spaced = if c = .and then " AND " else " OR " := by
  cases c <;> decide

theorem SimpleFilter.simple_text (key : String) (f : SimpleFilter) :
    (simple key f.text).result = .ok (f.meaning key) := by
  have hderives : Predicate.ofTokens key f.text (placed false 0 f.words) = .ok (f.meaning key) :=
    Predicate.ofTokens_ok_iff.mpr (Or.inr (f.derives key))
  exact simple_ok_iff.mpr (.words f.filterTokens_text hderives)

/-- Two simple filters with a sign between them are no words of one filter. -/
theorem SimpleFilter.simple_joined (key : String) (l r : SimpleFilter) (c : Connective) :
    (simple key (l.text ++ String.singleton c.sign ++ r.text)).result =
      .ok (literal key (l.text ++ String.singleton c.sign ++ r.text)) := by
  have hpaired : Paired (l.text ++ String.singleton c.sign ++ r.text).toList [c] := by
    have hsides := l.paired_text.append (.sign c r.paired_text)
    simpa using hsides
  apply simple_of_sign
  rw [hpaired.outside.2.2]
  exact List.cons_ne_nil _ _

/-- **Two simple filters with a sign between them**: if a split keeps both of them whole, what
they say on their own is joined; otherwise the whole is bound as it is. -/
theorem convert_joined (key : String) (l r : SimpleFilter) (c : Connective) :
    ∃ cl cr, convert (.name key) l.text = .ok cl ∧ convert (.name key) r.text = .ok cr ∧
      convert (.name key) (l.text ++ String.singleton c.sign ++ r.text) =
        .ok (if l.keptWhole && r.keptWhole then
            ⟨cl.expression ++ (if c = .and then " AND " else " OR ") ++ cr.expression,
              cl.params ++ cr.params⟩
          else literal key (l.text ++ String.singleton c.sign ++ r.text)) := by
  have hl := l.simple_text key
  have hr := r.simple_text key
  refine ⟨l.meaning key, r.meaning key, ?_, ?_, ?_⟩
  · rw [Unsplit.convert_eq l.splitTokens_text, hl]
  · rw [Unsplit.convert_eq r.splitTokens_text, hr]
  · obtain ⟨tokens, hsplit, hcompound⟩ := SimpleFilter.splitTokens_joined l r c
    cases hwhole : l.keptWhole && r.keptWhole with
    | true =>
      rw [hwhole, if_pos rfl] at hcompound
      rw [convert_of_compound hsplit hcompound, hl, hr, if_pos rfl, ← Connective.spaced_eq]
      rfl
    | false =>
      rw [hwhole, if_neg (by decide)] at hcompound
      rw [Unsplit.convert_eq ⟨tokens, hsplit, hcompound⟩, SimpleFilter.simple_joined,
        if_neg (by decide)]

/-- Both sides are filters of their own, but `!=` and a text in quotes are two parts. -/
theorem convert_joined_unequal_text :
    let l : SimpleFilter := .equality true (.quoted ⟨"a", by decide, by decide⟩)
    let r : SimpleFilter := .bare ⟨['5'], none, by decide, by simp⟩
    convert (.name "property") l.text = .ok ⟨"property != ?", [.text "a"]⟩ ∧
      convert (.name "property") r.text = .ok ⟨"property = ?", [.int 5]⟩ ∧
      convert (.name "property") (l.text ++ "+" ++ r.text) =
        .ok ⟨"property = ?", [.text "!='a'+5"]⟩ := by
  intro l r
  refine ⟨?_, ?_, ?_⟩
  all_goals decide +kernel

/-! ## Section 4: Any three parts -/

theorem IsPart.eq_sign {c : Connective} {chars : List Char} (h : IsPart (.connective c) chars) :
    chars = [c.sign] := by
  cases h with
  | sign => rfl
  | operand hkind => cases hkind

/-- **A part of a split is not split again** when it stands alone, and it does stand alone
without the white space at its ends. -/
theorem IsPart.unsplit {kind : SplitWord} {chars : List Char} (h : IsPart kind chars) :
    Unsplit (String.ofList (Text.trim chars)) := by
  cases h with
  | sign c =>
    have hcut : cut splitRules [c.sign] = ([⟨.connective c, [c.sign]⟩], []) := by
      rw [cut_sign, cut_nil]
    rw [trim_sign]
    refine ⟨_, splitTokens_ok_iff.mpr ⟨?_, rfl⟩, ?_⟩
    · rw [String.toList_ofList, hcut]
    · -- one part is no compound, whatever it is
      rw [String.toList_ofList, hcut]
      rfl
  | operand _ hpaired =>
    apply splitTokens_of_paired
    rw [String.toList_ofList]
    exact hpaired.trim

/-- Three tokens with a connective in the middle come from three pieces of the text. -/
theorem exists_pieces {value : String} {l op r : SplitToken} {c : Connective}
    (h : splitTokens value = .ok [l, op, r]) (hop : op.kind = .connective c) :
    ∃ p q : Piece SplitWord,
      cut splitRules value.toList = ([p, ⟨.connective c, [c.sign]⟩, q], []) ∧
      l.text = String.ofList (Text.trim p.chars) ∧ r.text = String.ofList (Text.trim q.chars) ∧
      op = ⟨.connective c, String.singleton c.sign,
        Span.covering (Text.byteLength p.chars) [c.sign]⟩ := by
  obtain ⟨hrest, hplaced⟩ := splitTokens_ok_iff.mp h
  have hlength : (cut splitRules value.toList).1.length = 3 := by
    rw [← length_placed true 0, ← hplaced]
    rfl
  obtain ⟨p, s, q, hpieces⟩ := List.length_eq_three.mp hlength
  have hpart : IsPart s.kind s.chars := isPart_of_mem_cut value.toList s (by simp [hpieces])
  rw [hpieces] at hplaced
  simp only [placed, List.cons.injEq, and_true] at hplaced
  obtain ⟨rfl, rfl, rfl⟩ := hplaced
  rw [Piece.toToken_kind] at hop
  obtain ⟨kind, chars⟩ := s
  obtain rfl : kind = .connective c := hop
  obtain rfl : chars = [c.sign] := hpart.eq_sign
  refine ⟨p, q, Prod.ext hpieces hrest, rfl, rfl, ?_⟩
  rw [Nat.zero_add]
  exact toToken_sign c _

/-- The text in front of the sign and the text behind it are parts themselves. -/
theorem exists_sides {value : String} {l op r : SplitToken} {c : Connective}
    (h : splitTokens value = .ok [l, op, r]) (hop : op.kind = .connective c) :
    ∃ p q : Piece SplitWord, IsPart p.kind p.chars ∧ IsPart q.kind q.chars ∧
      value.toList = p.chars ++ c.sign :: q.chars ∧
      l.text = String.ofList (Text.trim p.chars) ∧ r.text = String.ofList (Text.trim q.chars) ∧
      op = ⟨.connective c, String.singleton c.sign,
        Span.covering (Text.byteLength p.chars) [c.sign]⟩ := by
  obtain ⟨p, q, hcut, hl, hr, hsign⟩ := exists_pieces h hop
  have hpart := isPart_of_mem_cut value.toList
  have hconcat := cut_concat splitRules value.toList
  rw [hcut] at hpart hconcat
  refine ⟨p, q, hpart p (by simp), hpart q (by simp), ?_, hl, hr, hsign⟩
  rw [← hconcat]
  simp

/-- **Compound conversion is compositional**: what three parts with a connective in the middle
give is what the two sides of its sign give as filters of their own, a fault of the left one
before a fault of the right one. -/
theorem convert_compositional {value : String} {l op r : SplitToken} {c : Connective}
    (h : splitTokens value = .ok [l, op, r]) (hop : op.kind = .connective c) :
    ∃ a b : String, value = a ++ String.singleton c.sign ++ b ∧
      op = ⟨.connective c, String.singleton c.sign,
        Span.covering (Text.byteLength a.toList) [c.sign]⟩ ∧
      l.text = trimmed a ∧ r.text = trimmed b ∧ Unsplit (trimmed a) ∧ Unsplit (trimmed b) ∧
      ∀ key, convert (.name key) value =
        match convert (.name key) (trimmed a), convert (.name key) (trimmed b) with
        | .error fault, _ => .error fault
        | .ok _, .error fault => .error fault
        | .ok cl, .ok cr =>
          .ok ⟨cl.expression ++ (if c = .and then " AND " else " OR ") ++ cr.expression,
            cl.params ++ cr.params⟩ := by
  obtain ⟨p, q, hp, hq, htext, hl, hr, hsign⟩ := exists_sides h hop
  have ha : trimmed (String.ofList p.chars) = l.text := by
    rw [trimmed, String.toList_ofList, hl]
  have hb : trimmed (String.ofList q.chars) = r.text := by
    rw [trimmed, String.toList_ofList, hr]
  have hleft : Unsplit l.text := hl ▸ hp.unsplit
  have hright : Unsplit r.text := hr ▸ hq.unsplit
  refine ⟨String.ofList p.chars, String.ofList q.chars, ?_, ?_, ha.symm, hb.symm, ?_, ?_, ?_⟩
  · rw [← String.toList_inj, htext]
    simp
  · rw [hsign, String.toList_ofList]
  · rwa [ha]
  · rwa [hb]
  · intro key
    have hcompound : Compound.ofTokens? [l, op, r] = some ⟨l.text, c, r.text⟩ := by
      rw [hsign]
      rfl
    -- on its own a side is converted as it is inside the compound
    rw [ha, hb, hleft.convert_eq, hright.convert_eq, convert_of_compound h hcompound,
      ← Connective.spaced_eq]
    dsimp only
    cases (simple key l.text).result with
    | error fault => rfl
    | ok cl =>
      cases (simple key r.text).result with
      | error fault => rfl
      | ok cr => rfl

/-- A sign in a quoted text and white space at an end: the parts are trimmed, on its own each of
them is again one part, and what they give is joined. -/
theorem convert_compositional_quoted :
    let l : SplitToken := ⟨.operand, "~'a+b'", ⟨0, 6⟩⟩
    let op : SplitToken := ⟨.connective .or, "-", ⟨6, 7⟩⟩
    let r : SplitToken := ⟨.operand, ">5", ⟨8, 10⟩⟩
    splitTokens "~'a+b'- >5 " = .ok [l, op, r] ∧ op.kind = .connective .or ∧
      (∃ a b : String, "~'a+b'- >5 " = a ++ "-" ++ b ∧ l.text = trimmed a ∧ r.text = trimmed b) ∧
      convert (.name "size") "~'a+b'" = .ok ⟨"size like ?", [.text "%a+b%"]⟩ ∧
      convert (.name "size") ">5" = .ok ⟨"size > ?", [.int 5]⟩ ∧
      convert (.name "size") "~'a+b'- >5 " =
        .ok ⟨"size like ? OR size > ?", [.text "%a+b%", .int 5]⟩ := by
  intro l op r
  have hsplit : splitTokens "~'a+b'- >5 " = .ok [l, op, r] := by decide +kernel
  have hleft : convert (.name "size") "~'a+b'" = .ok ⟨"size like ?", [.text "%a+b%"]⟩ := by
    decide +kernel
  have hright : convert (.name "size") ">5" = .ok ⟨"size > ?", [.int 5]⟩ := by decide +kernel
  obtain ⟨a, b, htext, -, ha, hb, -, -, hconvert⟩ := convert_compositional hsplit rfl
  refine ⟨hsplit, rfl, ⟨a, b, htext, ha, hb⟩, hleft, hright, ?_⟩
  rw [hconvert "size", ← ha, ← hb, hleft, hright]
  decide

end PropertyFilter
