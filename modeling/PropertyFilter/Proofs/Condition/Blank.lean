import PropertyFilter.Proofs.Condition.Compound

/-!
  # Blank operands

  The parts of a compound filter lose the white space at their ends, and no words say the
  empty condition. So a part that holds nothing but white space is an operand without a
  predicate, and the connective is left with nothing on that side:

      " +5"    →    " AND key = ?"   with 5
      "5- "    →    "key = ? OR "    with 5

  Every other operand has an expression: a literal if it is not made of words, what its words
  say otherwise.

  Main statement: an operand of an accepted compound filter has the empty expression just if
  its side of the sign is blank (`convert_compound_operands`).
-/

namespace PropertyFilter

open Conversion

/-! ## Section 1: Operands without an expression -/

/-- Only the empty operand has no expression. -/
theorem Conversion.OperandConverts.expression_eq_empty {key text : String} {c : Condition}
    (h : OperandConverts key text c) : c.expression = "" ↔ text = "" := by
  cases h with
  | literal hwords =>
    have hliteral : (Conversion.literal key text).expression ≠ "" := by
      simp [Conversion.literal, String.append_eq_empty_iff]
    have htext : text ≠ "" := by
      intro hempty
      exact ne_nil_of_scan_error hwords (String.toList_eq_nil_iff.mpr hempty)
    exact iff_of_false hliteral htext
  | words hwords hc =>
    rw [Predicate.ofTokens_expression_eq_empty hc]
    exact eq_nil_iff_of_scan hwords

/-! ## Section 2: Both sides of a connective -/

/-- **An operand has no expression just if it is blank.** What is joined is what the parts on
both sides of the sign say as simple filters, and either of these says nothing at all exactly
when there is nothing but white space on its side. -/
theorem convert_compound_operands {key value : String} {left op right : SplitToken}
    {conn : Connective} {c : Condition} (hsplit : splitTokens value = .ok [left, op, right])
    (hop : op.kind = .connective conn) (hok : convert (.name key) value = .ok c) :
    ∃ (a b : String) (l r : Condition), value = a ++ String.singleton conn.sign ++ b ∧
      left.text = trimmed a ∧ right.text = trimmed b ∧
      (simple key left.text).result = .ok l ∧ (simple key right.text).result = .ok r ∧
      c = ⟨l.expression ++ (if conn = .and then " AND " else " OR ") ++ r.expression,
        l.params ++ r.params⟩ ∧
      (l.expression = "" ↔ Text.isBlankText a.toList = true) ∧
      (r.expression = "" ↔ Text.isBlankText b.toList = true) := by
  obtain ⟨p, q, -, -, htext, hleft, hright, hsign⟩ := exists_sides hsplit hop
  have ha : left.text = trimmed (String.ofList p.chars) := by
    rw [trimmed, String.toList_ofList, hleft]
  have hb : right.text = trimmed (String.ofList q.chars) := by
    rw [trimmed, String.toList_ofList, hright]
  have hcompound : Compound.ofTokens? [left, op, right] =
      some ⟨left.text, conn, right.text⟩ := by
    rw [hsign]
    rfl
  rw [convert_of_compound hsplit hcompound, ← compound_result] at hok
  obtain ⟨l, r, hl, hr, rfl⟩ := compound_ok_iff.mp hok
  refine ⟨String.ofList p.chars, String.ofList q.chars, l, r, ?_, ha, hb, simple_ok_iff.mpr hl,
    simple_ok_iff.mpr hr, ?_, ?_, ?_⟩
  · rw [← String.toList_inj, htext]
    simp
  · rw [← Connective.spaced_eq]
    rfl
  · rw [hl.expression_eq_empty, ← trimmed_eq_empty_iff, ← ha]
  · rw [hr.expression_eq_empty, ← trimmed_eq_empty_iff, ← hb]

/-- An ideographic space behind the sign: the left operand is a predicate, the right one is
blank. -/
theorem convert_compound_operands_wide_space :
    let value := ">=5-\u3000"
    let left : SplitToken := ⟨.operand, ">=5", ⟨0, 3⟩⟩
    let op : SplitToken := ⟨.connective .or, "-", ⟨3, 4⟩⟩
    let right : SplitToken := ⟨.operand, "", ⟨7, 7⟩⟩
    let c : Condition := ⟨"size >= ? OR ", [.int 5]⟩
    splitTokens value = .ok [left, op, right] ∧ op.kind = .connective .or ∧
      convert (.name "size") value = .ok c ∧
      ∃ (a b : String) (l r : Condition), value = a ++ "-" ++ b ∧
        c = ⟨l.expression ++ " OR " ++ r.expression, l.params ++ r.params⟩ ∧
        l.expression = "size >= ?" ∧ Text.isBlankText a.toList = false ∧
        r.expression = "" ∧ Text.isBlankText b.toList = true := by
  intro value left op right c
  have hsplit : splitTokens value = .ok [left, op, right] := by decide +kernel
  have hok : convert (.name "size") value = .ok c := by decide +kernel
  have hleft : (Conversion.simple "size" left.text).result = .ok ⟨"size >= ?", [.int 5]⟩ := by
    decide +kernel
  have hright : (Conversion.simple "size" right.text).result = .ok ⟨"", []⟩ := by decide +kernel
  obtain ⟨a, b, l, r, hvalue, -, -, hl, hr, hc, ha, hb⟩ :=
    convert_compound_operands hsplit rfl hok
  obtain rfl := Except.ok.inj (hleft.symm.trans hl)
  obtain rfl := Except.ok.inj (hright.symm.trans hr)
  refine ⟨hsplit, rfl, hok, a, b, _, _, hvalue, hc, rfl, ?_, rfl, hb.mp rfl⟩
  rw [← Bool.not_eq_true, ← ha]
  decide

/-- A blank in front of a sign and a number behind it: the condition begins with the
connective. -/
theorem convert_blank_operand :
    let left : SplitToken := ⟨.operand, "", ⟨1, 1⟩⟩
    let op : SplitToken := ⟨.connective .and, "+", ⟨1, 2⟩⟩
    let right : SplitToken := ⟨.number, "5", ⟨2, 3⟩⟩
    splitTokens " +5" = .ok [left, op, right] ∧
      (Conversion.simple "property" left.text).result = .ok ⟨"", []⟩ ∧
      (Conversion.simple "property" right.text).result = .ok ⟨"property = ?", [.int 5]⟩ ∧
      convert (.name "property") " +5" = .ok ⟨" AND property = ?", [.int 5]⟩ := by
  intro left op right
  refine ⟨?_, ?_, ?_, ?_⟩
  all_goals decide +kernel

end PropertyFilter
