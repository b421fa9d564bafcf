import PropertyFilter.Proofs.Condition.Compound
import PropertyFilter.Proofs.Filter.Spacing

/-!
  # White space in compound filters

  White space around the sign of a compound filter is taken in by the operands next to it, or
  the whole filter becomes a text to compare with:

      <10 + >2     the same as <10+>2
      5+ 6         the same as 5+6
      5 +6         the text "5 +6", since a number is taken without the white space behind it
      ~'a' -5      the text "~'a' -5"
      5- 'a'       the text "5- 'a'", since behind white space there is no quoted text

  Main statement: which white space changes nothing, for every compound filter, and what
  becomes of the filter otherwise (`convert_spacing`).
-/

namespace PropertyFilter

open Conversion

/-! ## Section 1: Operands that are bound to something -/

section params
variable {key : String}

theorem Predicate.ListDerives.params_ne_nil {vs : List FilterToken} {ps : List Param}
    (h : ListDerives vs ps) : ps ≠ [] := by
  cases h with
  | last | more => exact List.cons_ne_nil _ _

/-- Every predicate has a value. -/
theorem Predicate.Derives.params_ne_nil {negated : Bool} {words : List FilterToken}
    {c : Condition} (h : Derives key negated words c) : c.params ≠ [] := by
  induction h with
  | membership _ _ hvs => exact hvs.params_ne_nil
  | negation _ _ _ ih => exact ih
  | equality | comparison | search | number | negatedValue => exact List.cons_ne_nil _ _

theorem Conversion.OperandConverts.params_ne_nil {text : String} {c : Condition}
    (h : OperandConverts key text c) (hne : text ≠ "") : c.params ≠ [] := by
  cases h with
  | literal => exact List.cons_ne_nil _ _
  | words hwords hc =>
    rcases Predicate.ofTokens_ok_iff.mp hc with ⟨rfl, -⟩ | hderives
    · exact absurd ((eq_nil_iff_of_scan hwords).mp rfl) hne
    · exact hderives.params_ne_nil

/-- So a compound filter is not bound as it is: it has a value for each of its operands. -/
theorem join_ne_literal {left right value : String} {c : Connective} (hleft : left ≠ "")
    (hright : right ≠ "") :
    ((simple key left).result.bind fun l => (simple key right).result.map (l.join c ·)) ≠
      .ok (literal key value) := by
  rw [← compound_result key ⟨left, c, right⟩]
  intro hresult
  obtain ⟨l, r, hl, hr, hjoin⟩ := compound_ok_iff.mp hresult
  have hlparams := List.length_pos_of_ne_nil (hl.params_ne_nil hleft)
  have hrparams := List.length_pos_of_ne_nil (hr.params_ne_nil hright)
  have hlength := congrArg (fun d => d.params.length) hjoin
  simp only [literal, Condition.join, List.length_append, List.length_singleton] at hlength
  omega

end params

/-! ## Section 2: Conversion at a sign -/

section sign
variable {left right value : String} {c : Connective} {before behind : List Char}

/-- A sign that is the middle one of three tokens, in its place. -/
theorem cutAtSign_of_split {l op r : SplitToken}
    (h : splitTokens (left ++ String.singleton c.sign ++ right) = .ok [l, op, r])
    (hop : op.kind = .connective c) (hplace : op.span.start = left.utf8ByteSize) :
    CutAtSign left.toList c right.toList := by
  obtain ⟨p, q, hcut, -, -, rfl⟩ := exists_pieces h hop
  have htext : (left ++ String.singleton c.sign ++ right).toList =
      left.toList ++ c.sign :: right.toList := by simp
  have hconcat := cut_concat splitRules (left ++ String.singleton c.sign ++ right).toList
  rw [hcut, htext] at hconcat
  simp only [Piece.concat_cons, Piece.concat_nil, List.append_nil] at hconcat
  rw [← Text.byteLength_toList] at hplace
  -- the text in front of the sign has the bytes of the first piece
  obtain ⟨hp, hq⟩ := Text.append_inj_of_byteLength hconcat hplace
  have hq : q.chars = right.toList := (List.cons.inj hq).2
  rw [htext] at hcut
  exact ⟨p.kind, q.kind, by rw [hcut, ← hp, ← hq]⟩

/-- What is cut at a sign is converted as two operands. -/
theorem CutAtSign.convert_eq {a b : List Char} (h : CutAtSign a c b)
    (hvalue : value.toList = a ++ c.sign :: b) (ha : Text.trim a = left.toList)
    (hb : Text.trim b = right.toList) (key : String) :
    convert (.name key) value =
      (simple key left).result.bind fun l => (simple key right).result.map (l.join c ·) := by
  obtain ⟨k₁, k₂, hcut⟩ := h
  rw [← hvalue] at hcut
  have hsplit := splitTokens_ok_iff.mpr ⟨congrArg Prod.snd hcut, rfl⟩
  rw [hcut] at hsplit
  have hcompound : Compound.ofTokens? (placed true 0
      ([⟨k₁, a⟩, ⟨.connective c, [c.sign]⟩, ⟨k₂, b⟩] : List (Piece SplitWord))) =
        some ⟨left, c, right⟩ := by
    show some (⟨String.ofList (Text.trim a), c, String.ofList (Text.trim b)⟩ : Compound) = _
    rw [ha, hb, String.ofList_toList, String.ofList_toList]
  rw [convert_of_compound hsplit hcompound]

/-- White space that is taken in on both sides of the sign makes no difference. -/
theorem CutAtSign.convert_spaced (h : CutAtSign left.toList c right.toList)
    (hleft : Trimmed left.toList) (hright : Trimmed right.toList)
    (hbefore : ∀ d ∈ before, Text.isBlank d = true) (hbehind : ∀ d ∈ behind, Text.isBlank d = true)
    (htakenIn : (before = [] ∨ PlainLead left.toList) ∧
      (behind = [] ∨ ∀ d ∈ right.toList, isPlain d = true))
    (hvalue : value.toList = left.toList ++ before ++ c.sign :: (behind ++ right.toList))
    (key : String) :
    convert (.name key) value =
      (simple key left).result.bind fun l => (simple key right).result.map (l.join c ·) := by
  have hltrim : Text.trim ([] ++ left.toList ++ before) = left.toList :=
    hleft.trim_append (by simp) hbefore
  have hrtrim : Text.trim (behind ++ right.toList ++ []) = right.toList :=
    hright.trim_append hbehind (by simp)
  rw [List.nil_append] at hltrim
  rw [List.append_nil] at hrtrim
  have hspaced := h.spaced hbefore hbehind htakenIn.1 htakenIn.2
  exact hspaced.convert_eq hvalue hltrim hrtrim key

/-- With other white space the filter is no compound, and it is not made of words either: the
sign between the operands is outside quotes. -/
theorem CutAtSign.convert_apart (h : CutAtSign left.toList c right.toList)
    (hbefore : ∀ d ∈ before, Text.isBlank d = true) (hbehind : ∀ d ∈ behind, Text.isBlank d = true)
    (hnot : ¬((before = [] ∨ PlainLead left.toList) ∧
      (behind = [] ∨ ∀ d ∈ right.toList, isPlain d = true)))
    (hvalue : value.toList = left.toList ++ before ++ c.sign :: (behind ++ right.toList))
    (key : String) : convert (.name key) value = .ok (literal key value) := by
  obtain ⟨signs, others, hpaired⟩ := h.paired_spaced hbefore hbehind
  have hnone := h.apart hbefore hbehind hnot
  rw [← hvalue] at hpaired hnone
  have hunsplit : Unsplit value :=
    ⟨_, splitTokens_ok_iff.mpr ⟨(cut_splitRules hpaired).1, rfl⟩, hnone⟩
  have hsign : outerSigns value.toList ≠ [] := by simp [hpaired.outside.2.2]
  rw [hunsplit.convert_eq, simple_of_sign hsign]

end sign

/-! ## Section 3: White space around the sign -/

/-- **White space around a sign.** Put between the operands of a compound filter and its sign,
it changes nothing exactly if, where there is any in front of the sign, the left operand is
plain and does not begin like a number, and where there is any behind it, the right operand is
plain. Otherwise the filter is bound as it is. -/
theorem convert_spacing {left right before behind : String} {l op r : SplitToken}
    {c : Connective} (hleft : Trimmed left.toList) (hright : Trimmed right.toList)
    (hsplit : splitTokens (left ++ String.singleton c.sign ++ right) = .ok [l, op, r])
    (hop : op.kind = .connective c) (hplace : op.span.start = left.utf8ByteSize)
    (hbefore : Text.isBlankText before.toList = true)
    (hbehind : Text.isBlankText behind.toList = true) (key : String) :
    let joined := left ++ String.singleton c.sign ++ right
    let spaced := left ++ before ++ String.singleton c.sign ++ behind ++ right
    let takenIn := (before = "" ∨ PlainLead left.toList) ∧
      (behind = "" ∨ ∀ d ∈ right.toList, isPlain d = true)
    (convert (.name key) spaced = convert (.name key) joined ↔ takenIn) ∧
      (¬takenIn → convert (.name key) spaced = .ok (literal key spaced)) := by
  intro joined spaced takenIn
  have hcut := cutAtSign_of_split hsplit hop hplace
  have hjoinedText : joined.toList = left.toList ++ c.sign :: right.toList := by simp [joined]
  have hspacedText : spaced.toList =
      left.toList ++ before.toList ++ c.sign :: (behind.toList ++ right.toList) := by
    simp [spaced]
  rw [Text.isBlankText, List.all_eq_true] at hbefore hbehind
  have htakenIn : takenIn ↔ (before.toList = [] ∨ PlainLead left.toList) ∧
      (behind.toList = [] ∨ ∀ d ∈ right.toList, isPlain d = true) := by
    rw [String.toList_eq_nil_iff, String.toList_eq_nil_iff]
  rw [hcut.convert_eq hjoinedText hleft.trim_eq hright.trim_eq key]
  have hliteral (h : ¬takenIn) : convert (.name key) spaced = .ok (literal key spaced) :=
    hcut.convert_apart hbefore hbehind (mt htakenIn.mpr h) hspacedText key
  refine ⟨⟨?_, fun h => ?_⟩, hliteral⟩
  · -- two operands have two values, and a text that is bound as it is has one
    intro heq
    by_contra hnot
    rw [hliteral hnot] at heq
    obtain ⟨hleftNe, hrightNe⟩ := hcut.ne_nil
    exact join_ne_literal (mt String.toList_eq_nil_iff.mpr hleftNe)
      (mt String.toList_eq_nil_iff.mpr hrightNe) heq.symm
  · exact hcut.convert_spaced hleft hright hbefore hbehind (htakenIn.mp h) hspacedText key

/-- Blanks on both sides of the sign change nothing between two bounds, and a blank behind a
quoted text makes one text of the whole. -/
theorem convert_spacing_bounds :
    convert (.name "size") "<10 + >2" = convert (.name "size") "<10+>2" ∧
      convert (.name "size") "='a' -5" = .ok ⟨"size = ?", [.text "='a' -5"]⟩ := by
  have hbounds : splitTokens "<10+>2" =
      .ok [⟨.operand, "<10", ⟨0, 3⟩⟩, ⟨.connective .and, "+", ⟨3, 4⟩⟩,
        ⟨.operand, ">2", ⟨4, 6⟩⟩] := by
    decide +kernel
  have hquoted : splitTokens "='a'-5" =
      .ok [⟨.operand, "='a'", ⟨0, 4⟩⟩, ⟨.connective .or, "-", ⟨4, 5⟩⟩,
        ⟨.number, "5", ⟨5, 6⟩⟩] := by
    decide +kernel
  constructor
  · have hspacing := @convert_spacing "<10" ">2" " " " " _ _ _ .and (by decide) (by decide)
      hbounds rfl (by decide) (by decide) (by decide) "size"
    have hright : ∀ d ∈ ">2".toList, isPlain d = true := List.all_eq_true.mp (by decide)
    exact hspacing.1.mpr ⟨Or.inr (by decide), Or.inr hright⟩
  · have hspacing := @convert_spacing "='a'" "5" " " "" _ _ _ .or (by decide) (by decide)
      hquoted rfl (by decide) (by decide) (by decide) "size"
    have hleft : ¬(" " = "" ∨ PlainLead "='a'".toList) := by decide
    exact hspacing.2 fun h => hleft h.1

/-- Both `5+6` and `5+ 6` look for 5 and for 6, but `5 +6` looks for a text. -/
theorem convert_spacing_number :
    let l : SplitToken := ⟨.number, "5", ⟨0, 1⟩⟩
    let op : SplitToken := ⟨.connective .and, "+", ⟨1, 2⟩⟩
    let r : SplitToken := ⟨.number, "6", ⟨2, 3⟩⟩
    let both : Condition := ⟨"property = ? AND property = ?", [.int 5, .int 6]⟩
    splitTokens "5+6" = .ok [l, op, r] ∧ convert (.name "property") "5+6" = .ok both ∧
      convert (.name "property") "5+ 6" = .ok both ∧
      convert (.name "property") "5 +6" = .ok ⟨"property = ?", [.text "5 +6"]⟩ := by
  intro l op r both
  refine ⟨?_, ?_, ?_, ?_⟩
  all_goals decide +kernel

end PropertyFilter
