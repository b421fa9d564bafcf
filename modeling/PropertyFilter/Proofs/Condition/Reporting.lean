import PropertyFilter.Proofs.Condition.Compound

/-!
  # What a conversion reports

  A conversion reports what it does, in this order:

      split fails      DEBUG   the filter, which is bound as it is
      not compound             the record of the filter as an operand
      compound         TRACE   both operands, trimmed
                               the record of the left operand
                               the record of the right one, unless the left one is refused

  and the record of an operand says if it can be cut into words:

      no cut           DEBUG   the operand, which is bound as it is
      words            TRACE   their number, which may be none

  So nothing is bound as it is without a debug record, and a debug record stands for nothing
  else: the debug records of an accepted filter are the texts that it falls back to, in order,
  and there are none if all of it is understood.

  Main statement: `convert_records`.
-/

namespace PropertyFilter

open Conversion

/-! ## Section 1: Records -/

namespace Log.Record

/-- The fields of a record, however they are written. -/
def texts (r : Record) : List (String × String) := r.fields.map fun f => (f.1, f.2.text)

/-- `r.Tells level fields`: this is the level of the record, and these are its fields. -/
def Tells (r : Record) (level : Level) (fields : List (String × String)) : Prop :=
  r.level = level ∧ r.texts = fields

/-- The value of the field with a name. -/
def text? (r : Record) (name : String) : Option String :=
  (r.texts.find? (·.1 = name)).map Prod.snd

end Log.Record

/-- The records of a report, in order. -/
def recordsOf (events : List Event) : List Log.Record := events.map Event.toRecord

/-- The records of a conversion, in order. -/
def records (key value : String) : List Log.Record :=
  recordsOf (convertReporting (.name key) value).events

/-- The values of the debug records among some records, in order. -/
def debugValues (rs : List Log.Record) : List (Option String) :=
  (rs.filter (·.level = .debug)).map (·.text? "value")

/-! ## Section 2: Compound filters -/

/-- `IsCompound value filter`: the filter falls into three parts with a sign in the middle, and
its operands are the sides of this sign without the white space at their ends. -/
structure IsCompound (value : String) (filter : Compound) : Prop where
  parts : ∃ l op r, splitTokens value = .ok [l, op, r] ∧
    op.kind = .connective filter.connective ∧ l.text = filter.left ∧ r.text = filter.right
  sides : ∃ a b, value = a ++ String.singleton filter.connective.sign ++ b ∧
    filter.left = trimmed a ∧ filter.right = trimmed b

section path
variable {value : String} {filter : Compound}

theorem isCompound_iff :
    IsCompound value filter ↔
      ∃ tokens, splitTokens value = .ok tokens ∧ Compound.ofTokens? tokens = some filter := by
  constructor
  · rintro ⟨⟨l, op, r, hsplit, hparts⟩, -⟩
    exact ⟨_, hsplit, Compound.ofTokens?_eq_some_iff.mpr ⟨l, op, r, rfl, hparts⟩⟩
  · rintro ⟨tokens, hsplit, hcompound⟩
    obtain ⟨l, op, r, rfl, hop, hl, hr⟩ := Compound.ofTokens?_eq_some_iff.mp hcompound
    obtain ⟨p, q, -, -, htext, hp, hq, -⟩ := exists_sides hsplit hop
    refine ⟨⟨l, op, r, hsplit, hop, hl, hr⟩, String.ofList p.chars, String.ofList q.chars,
      ?_, ?_, ?_⟩
    · rw [← String.toList_inj, htext]
      simp
    · rw [← hl, hp, trimmed, String.toList_ofList]
    · rw [← hr, hq, trimmed, String.toList_ofList]

theorem IsCompound.unique {filter' : Compound} (h : IsCompound value filter)
    (h' : IsCompound value filter') : filter = filter' := by
  obtain ⟨tokens, hsplit, hcompound⟩ := isCompound_iff.mp h
  obtain ⟨tokens', hsplit', hcompound'⟩ := isCompound_iff.mp h'
  rw [hsplit] at hsplit'
  obtain rfl := Except.ok.inj hsplit'
  rw [hcompound] at hcompound'
  exact Option.some.inj hcompound'

theorem IsCompound.not_unsplit (h : IsCompound value filter) : ¬Unsplit value := by
  rintro ⟨tokens, hsplit, hnone⟩
  obtain ⟨tokens', hsplit', hcompound⟩ := isCompound_iff.mp h
  rw [hsplit] at hsplit'
  obtain rfl := Except.ok.inj hsplit'
  rw [hnone] at hcompound
  cases hcompound

/-- A filter cannot be split, is not compound, or is. -/
theorem exists_path (value : String) :
    (∃ e, splitTokens value = .error e) ∨ Unsplit value ∨ ∃ filter, IsCompound value filter := by
  cases hsplit : splitTokens value with
  | error e => exact Or.inl ⟨e, rfl⟩
  | ok tokens =>
    cases hcompound : Compound.ofTokens? tokens with
    | none => exact Or.inr (Or.inl ⟨tokens, hsplit, hcompound⟩)
    | some filter =>
      exact Or.inr (Or.inr ⟨filter, isCompound_iff.mpr ⟨tokens, hsplit, hcompound⟩⟩)

theorem IsCompound.convertReporting_eq (h : IsCompound value filter) (key : String) :
    convertReporting (.name key) value = compound key filter := by
  obtain ⟨tokens, hsplit, hcompound⟩ := isCompound_iff.mp h
  exact convertReporting_of_compound hsplit hcompound

end path

/-! ## Section 3: Records of a run -/

/-- `OperandRecorded key text result r`: the operand becomes `result`, and `r` tells how. -/
inductive OperandRecorded (key text : String) : Except Fault Condition → Log.Record → Prop
  | literal {e : ScanError} {r : Log.Record} :
      filterTokens text = .error e →
      r.Tells .debug [("key", key), ("value", text), ("error", e.message)] →
      OperandRecorded key text (.ok (literal key text)) r
  | words {tokens : List FilterToken} {r : Log.Record} :
      filterTokens text = .ok tokens →
      r.Tells .trace [("key", key), ("value", text), ("count", Digits.ofInt tokens.length)] →
      OperandRecorded key text (Predicate.ofTokens key text tokens) r

/-- `Recorded key value result rs`: the filter becomes `result`, and `rs` tell how. -/
inductive Recorded (key value : String) : Except Fault Condition → List Log.Record → Prop
  | literal {e : ScanError} {r : Log.Record} :
      splitTokens value = .error e →
      r.Tells .debug [("key", key), ("value", value), ("error", e.message)] →
      Recorded key value (.ok (literal key value)) [r]
  | simple {result : Except Fault Condition} {r : Log.Record} :
      Unsplit value → OperandRecorded key value result r → Recorded key value result [r]
  /-- The right operand is left alone if the left one is refused. -/
  | leftRefused {filter : Compound} {fault : Fault} {r left : Log.Record} :
      IsCompound value filter →
      r.Tells .trace [("key", key), ("left", filter.left), ("right", filter.right),
        ("joiner", filter.connective.word)] →
      OperandRecorded key filter.left (.error fault) left →
      Recorded key value (.error fault) [r, left]
  | compound {filter : Compound} {l : Condition} {result : Except Fault Condition}
      {r left right : Log.Record} :
      IsCompound value filter →
      r.Tells .trace [("key", key), ("left", filter.left), ("right", filter.right),
        ("joiner", filter.connective.word)] →
      OperandRecorded key filter.left (.ok l) left →
      OperandRecorded key filter.right result right →
      Recorded key value (result.map (l.join filter.connective ·)) [r, left, right]

/-- An operand has one record. -/
theorem exists_operandRecorded (key text : String) :
    ∃ r, recordsOf (simple key text).events = [r] ∧
      OperandRecorded key text (simple key text).result r := by
  unfold simple
  cases hwords : filterTokens text with
  | error e => exact ⟨_, rfl, .literal hwords ⟨rfl, rfl⟩⟩
  | ok tokens => exact ⟨_, rfl, .words hwords ⟨rfl, rfl⟩⟩

/-- The records of the operands follow that of the compound filter. -/
theorem recordsOf_compound (key : String) (filter : Compound) :
    recordsOf (compound key filter).events =
      (Event.compound key filter).toRecord ::
        (recordsOf (simple key filter.left).events ++
          match (simple key filter.left).result with
          | .error _ => []
          | .ok _ => recordsOf (simple key filter.right).events) := by
  unfold compound recordsOf
  dsimp only
  cases (simple key filter.left).result with
  | error fault => simp
  | ok l => simp

/-- **Every conversion is recorded.** -/
theorem recorded (key value : String) :
    Recorded key value (convert (.name key) value) (records key value) := by
  unfold convert records
  rcases exists_path value with ⟨e, he⟩ | hsplit | ⟨filter, hcompound⟩
  · rw [convertReporting_of_error he]
    exact .literal he ⟨rfl, rfl⟩
  · rw [hsplit.convertReporting_eq]
    obtain ⟨r, hr, hrecorded⟩ := exists_operandRecorded key value
    rw [hr]
    exact .simple hsplit hrecorded
  · obtain ⟨left, hleft, hleftRecorded⟩ := exists_operandRecorded key filter.left
    obtain ⟨right, hright, hrightRecorded⟩ := exists_operandRecorded key filter.right
    rw [hcompound.convertReporting_eq, recordsOf_compound, compound_result, hleft, hright]
    -- the right operand counts only if the left one is accepted
    cases hl : (simple key filter.left).result with
    | error fault =>
      rw [hl] at hleftRecorded
      exact .leftRefused hcompound ⟨rfl, rfl⟩ hleftRecorded
    | ok l =>
      rw [hl] at hleftRecorded
      exact .compound hcompound ⟨rfl, rfl⟩ hleftRecorded hrightRecorded

/-! ## Section 4: Falling back -/

/-- `OperandFallsBack key text c texts`: the operand becomes `c`, and `texts` is the operand if
it is bound as it is, and empty if it can be cut into words. -/
inductive OperandFallsBack (key text : String) : Condition → List String → Prop
  | literal {e : ScanError} :
      filterTokens text = .error e → OperandFallsBack key text (literal key text) [text]
  | words {tokens : List FilterToken} {c : Condition} :
      filterTokens text = .ok tokens → Predicate.ofTokens key text tokens = .ok c →
      OperandFallsBack key text c []

/-- `FallsBack key value c texts`: the filter becomes `c`, and `texts` are those that are bound
as they are, in order. -/
inductive FallsBack (key value : String) : Condition → List String → Prop
  | literal {e : ScanError} :
      splitTokens value = .error e → FallsBack key value (literal key value) [value]
  | simple {c : Condition} {texts : List String} :
      Unsplit value → OperandFallsBack key value c texts → FallsBack key value c texts
  | compound {filter : Compound} {l r : Condition} {front back : List String} :
      IsCompound value filter → OperandFallsBack key filter.left l front →
      OperandFallsBack key filter.right r back →
      FallsBack key value (l.join filter.connective r) (front ++ back)

/-- The filter can be split, and what it is split into can be cut into words. -/
inductive Understood (value : String) : Prop
  | simple {tokens : List FilterToken} :
      Unsplit value → filterTokens value = .ok tokens → Understood value
  | compound {filter : Compound} {left right : List FilterToken} :
      IsCompound value filter → filterTokens filter.left = .ok left →
      filterTokens filter.right = .ok right → Understood value

section operand
variable {key text : String} {c : Condition} {texts : List String}

theorem Conversion.OperandConverts.exists_fallsBack (h : OperandConverts key text c) :
    ∃ texts, OperandFallsBack key text c texts := by
  cases h with
  | literal he => exact ⟨_, .literal he⟩
  | words hwords hc => exact ⟨_, .words hwords hc⟩

theorem OperandFallsBack.converts (h : OperandFallsBack key text c texts) :
    OperandConverts key text c := by
  cases h with
  | literal he => exact .literal he
  | words hwords hc => exact .words hwords hc

/-- What an operand falls back to is bound. -/
theorem OperandFallsBack.sublist (h : OperandFallsBack key text c texts) :
    (texts.map Param.text).Sublist c.params := by
  cases h with
  | literal => exact List.Sublist.refl _
  | words => exact List.nil_sublist _

theorem OperandFallsBack.eq_nil_iff (h : OperandFallsBack key text c texts) :
    texts = [] ↔ ∃ tokens, filterTokens text = .ok tokens := by
  cases h with
  | literal he => simp [he]
  | words hwords => simp [hwords]

/-- **An operand is bound as it is just if it has a debug record**, with the operand as its
value. -/
theorem OperandFallsBack.debugValues_eq (h : OperandFallsBack key text c texts) :
    debugValues (recordsOf (simple key text).events) = texts.map some := by
  unfold simple
  cases h with
  | literal he =>
    rw [he]
    rfl
  | words hwords =>
    rw [hwords]
    rfl

end operand

section filter
variable {key value : String} {c : Condition} {texts : List String}

theorem Conversion.Converts.exists_fallsBack (h : Converts key value c) :
    ∃ texts, FallsBack key value c texts := by
  cases h with
  | literal he => exact ⟨_, .literal he⟩
  | simple hsplit hnone hc =>
    obtain ⟨texts, htexts⟩ := hc.exists_fallsBack
    exact ⟨texts, .simple ⟨_, hsplit, hnone⟩ htexts⟩
  | compound hsplit hcompound hl hr =>
    obtain ⟨front, hfront⟩ := hl.exists_fallsBack
    obtain ⟨back, hback⟩ := hr.exists_fallsBack
    exact ⟨_, .compound (isCompound_iff.mpr ⟨_, hsplit, hcompound⟩) hfront hback⟩

/-- What a filter falls back to is bound, in order. -/
theorem FallsBack.sublist (h : FallsBack key value c texts) :
    (texts.map Param.text).Sublist c.params := by
  cases h with
  | literal => exact List.Sublist.refl _
  | simple _ htexts => exact htexts.sublist
  | compound _ hfront hback =>
    rw [List.map_append]
    exact hfront.sublist.append hback.sublist

theorem debugValues_append (front back : List Log.Record) :
    debugValues (front ++ back) = debugValues front ++ debugValues back := by
  unfold debugValues
  rw [List.filter_append, List.map_append]

/-- **The debug records are the texts that a filter falls back to.** -/
theorem FallsBack.debugValues_eq (h : FallsBack key value c texts) :
    debugValues (records key value) = texts.map some := by
  unfold records
  cases h with
  | literal he =>
    rw [convertReporting_of_error he]
    rfl
  | simple hsplit htexts =>
    rw [hsplit.convertReporting_eq]
    exact htexts.debugValues_eq
  | @compound filter l r front back hcompound hfront hback =>
    have hleft := simple_ok_iff.mpr hfront.converts
    rw [hcompound.convertReporting_eq, recordsOf_compound, hleft, ← List.singleton_append,
      debugValues_append, debugValues_append, hfront.debugValues_eq, hback.debugValues_eq,
      List.map_append]
    -- the first record is a trace
    rfl

theorem FallsBack.unique {c' : Condition} {texts' : List String}
    (h : FallsBack key value c texts) (h' : FallsBack key value c' texts') : texts' = texts := by
  have hvalues := h'.debugValues_eq.symm.trans h.debugValues_eq
  exact List.map_injective_iff.mpr (Option.some_injective String) hvalues

/-- A filter that falls back to nothing is understood. -/
theorem FallsBack.eq_nil_iff (h : FallsBack key value c texts) : texts = [] ↔ Understood value := by
  cases h with
  | literal he =>
    refine ⟨fun hnil => absurd hnil (List.cons_ne_nil _ _), ?_⟩
    rintro (⟨⟨tokens, hsplit, -⟩, -⟩ | ⟨⟨⟨l, op, r, hsplit, -⟩, -⟩, -, -⟩)
    · rw [he] at hsplit
      cases hsplit
    · rw [he] at hsplit
      cases hsplit
  | simple hsplit htexts =>
    rw [htexts.eq_nil_iff]
    constructor
    · rintro ⟨tokens, hwords⟩
      exact .simple hsplit hwords
    · rintro (⟨-, hwords⟩ | ⟨hcompound, -, -⟩)
      · exact ⟨_, hwords⟩
      · exact absurd hsplit hcompound.not_unsplit
  | compound hcompound hfront hback =>
    rw [List.append_eq_nil_iff, hfront.eq_nil_iff, hback.eq_nil_iff]
    constructor
    · rintro ⟨⟨left, hleft⟩, right, hright⟩
      exact .compound hcompound hleft hright
    · rintro (⟨hsplit, -⟩ | ⟨hcompound', hleft, hright⟩)
      · exact absurd hsplit hcompound.not_unsplit
      · obtain rfl := hcompound.unique hcompound'
        exact ⟨⟨_, hleft⟩, _, hright⟩

end filter

/-! ## Section 5: Conversions -/

/-- **Nothing is bound as it is without a debug record.** Every conversion tells in its records
what it does, in order. If the filter is accepted, the values of the debug records are the texts
that are bound as they are, and there are no such records just if the filter is understood. -/
theorem convert_records (key value : String) :
    Recorded key value (convert (.name key) value) (records key value) ∧
      ∀ c, convert (.name key) value = .ok c →
        (∃ texts, debugValues (records key value) = texts.map some ∧
          (∀ ts, FallsBack key value c ts ↔ ts = texts) ∧
          (texts.map Param.text).Sublist c.params) ∧
        ((∀ r ∈ records key value, r.level ≠ .debug) ↔ Understood value) := by
  refine ⟨recorded key value, ?_⟩
  intro c hc
  obtain ⟨texts, htexts⟩ := (convert_ok_iff.mp hc).exists_fallsBack
  have hvalues := htexts.debugValues_eq
  refine ⟨⟨texts, hvalues, ?_, htexts.sublist⟩, ?_⟩
  · intro ts
    constructor
    · exact htexts.unique
    · rintro rfl
      exact htexts
  · have hnone : (∀ r ∈ records key value, r.level ≠ .debug) ↔
        debugValues (records key value) = [] := by
      unfold debugValues
      rw [List.map_eq_nil_iff, List.filter_eq_nil_iff]
      simp
    rw [hnone, hvalues, List.map_eq_nil_iff, htexts.eq_nil_iff]

/-- Only the right side can be cut into words. -/
example : debugValues (records "size" " abc +>5") = [some "abc"] := by
  decide +kernel

end PropertyFilter
