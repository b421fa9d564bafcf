import PropertyFilter.Condition.Json
import PropertyFilter.Proofs.Json.Number
import PropertyFilter.Proofs.Json.Reading

/-!
  # Reading a condition that is written

  A condition is written as an object of its expression and its values. What is read from the
  text is that condition, with each of its values read again:

      5            the same integer
      'text'       the same text
      0.5          the number that its shortest decimal is scaled to
      infinite     written as `null`, which is refused

  Main statement: `Condition.ofJsonText_toJson`, of every condition whose integers are those of
  64 bits.
-/

namespace PropertyFilter

open Json

/-! ## Section 1: Bound values -/

namespace Param

/-- The bound value that is read from what is written for this one. -/
def reread? : Param → Option Param
  | .int n => some (.int n)
  | .text s => some (.text s)
  | .float (.finite negative rank) => (rereadRank? rank).map fun s => .float (.ofRank negative s)
  | .float _ => none

/-- What is written for a value. -/
def jsonText (p : Param) : List Char := p.toJson.compact.toList

/-- Integers are those of 64 bits with a sign. -/
def Fits (p : Param) : Prop := ∀ n, p = .int n → minInt ≤ n ∧ n ≤ Param.maxInt

section values
variable {p : Param} {depth : Nat} {cur : Cursor} {rest : List Char}

theorem begins_jsonText (p : Param) : Begins p.jsonText := by
  cases p with
  | int n =>
    show Begins (Digits.ofInt n).toList
    rw [ofInt_eq, String.toList_ofList]
    exact (intText_proper n).begins
  | text s =>
    show Begins (quote s).toList
    exact ⟨'"', s.toList.flatMap escapeChar ++ ['"'], by rw [quote]; simp, rfl, by decide⟩
  | float x =>
    show Begins (Layout.json.text x).toList
    cases x with
    | finite negative rank =>
      rw [jsonText_finite, String.toList_ofList]
      exact (floatText_proper negative rank).begins
    | infinite negative =>
      have hnull : Layout.json.text (.infinite negative) = "null" := rfl
      rw [hnull]
      exact ⟨'n', ['u', 'l', 'l'], rfl, rfl, by decide⟩
    | nan => exact ⟨'n', ['u', 'l', 'l'], rfl, rfl, by decide⟩

theorem read_reads {v : Json} (h : Gives (readValue depth) cur v rest) :
    Reads (Param.read depth) cur (ofJson? v) rest := by
  obtain ⟨after, hread, hafter⟩ := h
  unfold Param.read
  cases hp : ofJson? v with
  | none =>
    refine ⟨after.fault (.shape "a value is a number or a text"), ?_⟩
    simp only [hread, hp, bind, Except.bind]
    rfl
  | some p =>
    refine ⟨after, ?_, hafter⟩
    simp only [hread, hp, bind, Except.bind]
    rfl

/-- **A value is read again.** -/
theorem read_jsonText (depth : Nat) (hfits : p.Fits) : ReadsText (Param.read depth) p.jsonText p.reread? := by
  intro cur rest hcur hrest
  cases p with
  | int n =>
    obtain ⟨hlow, hhigh⟩ := hfits n rfl
    have hcur : cur.rest = (Digits.ofInt n).toList ++ rest := hcur
    have hchars : cur.rest = (intText n).chars ++ rest := by
      rw [hcur, ofInt_eq, String.toList_ofList]
    have hnumber := readNumber_int hlow (hhigh.trans (by decide)) hcur hrest
    have hvalue : ofJson? (.int n) = some (.int n) := congrArg some (if_pos hhigh)
    have hreads := read_reads (readValue_number depth (intText_proper n) hchars hnumber)
    rwa [hvalue] at hreads
  | text s => exact read_reads (readValue_text s hcur)
  | float x =>
    cases x with
    | finite negative rank =>
      have hcur : cur.rest = (Layout.json.text (.finite negative rank)).toList ++ rest := hcur
      have hchars : cur.rest = (floatText negative rank).chars ++ rest := by
        rw [hcur, jsonText_finite, String.toList_ofList]
      obtain ⟨s, -, hreread, hnumber⟩ := readNumber_float negative rank hcur hrest
      have hvalue : reread? (.float (.finite negative rank)) = some (.float (.ofRank negative s)) := by
        show (rereadRank? rank).map _ = _
        rw [hreread]
        rfl
      rw [hvalue]
      exact read_reads (readValue_number depth (floatText_proper negative rank) hchars hnumber)
    | infinite negative =>
      have hnull : Layout.json.text (.infinite negative) = "null" := rfl
      have hcur : cur.rest = (Layout.json.text (.infinite negative)).toList ++ rest := hcur
      rw [hnull] at hcur
      exact read_reads (readValue_null hcur)
    | nan =>
      have hnull : cur.rest = ['n', 'u', 'l', 'l'] ++ rest := hcur
      exact read_reads (readValue_null hnull)

end values

end Param

/-! ## Section 2: Conditions -/

namespace Condition

section conditions
variable {c : Condition} {depth : Nat} {cur : Cursor} {rest : List Char}

/-- What is written for the values of a condition. -/
def paramsText (c : Condition) : List Char :=
  '[' :: (separated true (c.params.map Param.jsonText) ++ [']'])

/-- What is written for a condition. -/
theorem compact_toJson (c : Condition) :
    c.toJson.compact.toList =
      '{' :: (fieldName true "expression" ++ ':' :: ((quote c.expression).toList ++
        (fieldName false "params" ++ ':' :: (c.paramsText ++ ['}'])))) := by
  have hcompact : c.toJson.compact =
      "\x7b" ++ (quote "expression" ++ ":" ++ quote c.expression ++ "," ++
        (quote "params" ++ ":" ++ ("[" ++ compactItems (c.params.map Param.toJson) ++ "]"))) ++
        "\x7d" := rfl
  have hparams : (compactItems (c.params.map Param.toJson)).toList =
      separated true (c.params.map Param.jsonText) := by
    rw [compactItems_eq, List.map_map]
    rfl
  rw [hcompact]
  simp only [String.toList_append, hparams]
  simp [quote, fieldName, paramsText]

theorem readParams_reads (depth : Nat) (hfits : ∀ p ∈ c.params, p.Fits) (hbound : cur.rest.length ≤ cur.bound)
    (hcur : cur.rest = c.paramsText ++ rest) :
    Reads (readParams (depth + 1)) cur (c.params.mapM Param.reread?) rest := by
  have hopen : cur.rest = '[' :: (separated true (c.params.map Param.jsonText) ++ ']' :: rest) := by
    rw [hcur, paramsText, List.cons_append, List.append_assoc]
    rfl
  have hitems := readItems_reads (m := .wanted) (fun p _ => p.begins_jsonText)
    (fun p hp => Param.read_jsonText depth (hfits p hp))
    (by rw [advance_bound, advance_rest hopen]; rw [hopen, List.length_cons] at hbound; omega)
    (advance_rest hopen)
  refine hitems.of_eq ?_ (advance_bound cur)
  unfold readParams
  simp only [skipSpace_cons hopen rfl, hopen]

/-- The expression is read as it is. -/
theorem readExpression_reads (hcur : cur.rest = ':' :: ((quote c.expression).toList ++ rest)) :
    Reads (readNamedField (jsonFields depth) ({}, []) "expression") cur
      (some (⟨c.expression, []⟩, ["expression"])) rest := by
  have hfield : Reads (readNamedField (jsonFields depth) ({}, []) "expression") cur
      ((some (⟨c.expression, []⟩ : Condition)).map (·, ["expression"])) rest := by
    refine readNamedField_reads rfl List.not_mem_nil (fun next hnext _ => ?_) hcur
    have htext : Reads readWantedText next (some c.expression) rest :=
      readWantedText_gives c.expression hnext
    refine (htext.map fun s => ({ expression := s } : Condition)).of_eq ?_ rfl
    dsimp only [bind, Except.bind]
    cases readWantedText next <;> rfl
  exact hfield

/-- Each of the values is read again. -/
theorem readValues_reads (hfits : ∀ p ∈ c.params, p.Fits)
    (hbound : cur.rest.length ≤ cur.bound) (hcur : cur.rest = ':' :: (c.paramsText ++ rest)) :
    Reads (readNamedField (jsonFields (depth + 1)) (⟨c.expression, []⟩, ["expression"]) "params") cur
      ((c.params.mapM Param.reread?).map fun ps => (⟨c.expression, ps⟩, ["params", "expression"])) rest := by
  have hfield : Reads (readNamedField (jsonFields (depth + 1)) (⟨c.expression, []⟩, ["expression"]) "params")
      cur (((c.params.mapM Param.reread?).map (⟨c.expression, ·⟩)).map (·, ["params", "expression"])) rest := by
    refine readNamedField_reads rfl (by decide) (fun next hnext hkeep => ?_) hcur
    have hlength : next.rest.length ≤ next.bound := by
      rw [hcur, List.length_cons] at hbound
      rw [hnext, hkeep]
      omega
    have hparams := readParams_reads depth hfits hlength hnext
    refine (hparams.map fun ps => (⟨c.expression, ps⟩ : Condition)).of_eq ?_ rfl
    dsimp only [bind, Except.bind]
    cases readParams (depth + 1) next <;> rfl
  rwa [Option.map_map] at hfield

/-- The fields of a condition are read one after the other. -/
theorem readFields_toJson {fuel : Nat} (hfits : ∀ p ∈ c.params, p.Fits)
    (hbound : cur.rest.length ≤ cur.bound)
    (hcur : cur.rest = fieldName true "expression" ++ ':' :: ((quote c.expression).toList ++
      (fieldName false "params" ++ ':' :: (c.paramsText ++ '}' :: rest)))) :
    Reads (readFieldsFrom .wanted (readNamedField (jsonFields (depth + 1))) (fuel + 3) true
        ({}, [])) cur
      ((c.params.mapM Param.reread?).map fun ps =>
        (⟨c.expression, ps⟩, ["params", "expression"])) ('}' :: rest) := by
  have hend (found : Condition × List String) (after : Cursor) (hafter : after.rest = '}' :: rest) :
      Reads (readFieldsFrom .wanted (readNamedField (jsonFields (depth + 1))) (fuel + 1) false found)
        after (some found) ('}' :: rest) := readFieldsFrom_end hafter
  have hvalues (found : Condition × List String)
      (hfound : found ∈ some ((⟨c.expression, []⟩ : Condition), ["expression"]))
      (after : Cursor)
      (hafter : after.rest = fieldName false "params" ++ ':' :: (c.paramsText ++ '}' :: rest))
      (hkeep : after.bound = cur.bound) :
      Reads (readFieldsFrom .wanted (readNamedField (jsonFields (depth + 1))) (fuel + 2) false found)
        after ((c.params.mapM Param.reread?).map fun ps =>
          (⟨c.expression, ps⟩, ["params", "expression"])) ('}' :: rest) := by
    obtain rfl := Option.mem_some_iff.mp hfound
    have hlength (next : Cursor) (hnext : next.rest = ':' :: (c.paramsText ++ '}' :: rest))
        (hsame : next.bound = after.bound) : next.rest.length ≤ next.bound := by
      rw [hcur] at hbound
      rw [hnext, hsame, hkeep]
      simp only [List.length_append, List.length_cons] at hbound ⊢
      omega
    have hfields := readFieldsFrom_field (fun next hnext hsame =>
      readValues_reads hfits (hlength next hnext hsame) hnext)
      (fun found _ after hafter _ => hend found after hafter) hafter
    rwa [Option.bind_fun_some] at hfields
  exact readFieldsFrom_field (fun next hnext _ => readExpression_reads hnext) hvalues hcur

/-- A record of the two fields is read wherever it stands. -/
theorem readRecord_toJson (hfits : ∀ p ∈ c.params, p.Fits) (hbound : cur.rest.length ≤ cur.bound)
    (hcur : cur.rest = '{' :: (fieldName true "expression" ++ ':' :: ((quote c.expression).toList ++
      (fieldName false "params" ++ ':' :: (c.paramsText ++ '}' :: rest))))) :
    Reads (readRecord "a condition" (depth + 2) jsonFields true {}) cur
      ((c.params.mapM Param.reread?).map (⟨c.expression, ·⟩)) rest := by
  have hstart := advance_rest hcur
  have hadvanced : cur.advance.rest.length ≤ cur.advance.bound := by
    rw [hcur, List.length_cons] at hbound
    rw [hstart, advance_bound]
    omega
  -- the names alone are longer than the number of fields
  obtain ⟨fuel, hfuel⟩ : ∃ fuel, cur.advance.bound + 1 = fuel + 3 := by
    refine ⟨cur.advance.bound - 2, ?_⟩
    rw [hstart] at hadvanced
    simp only [fieldName, List.length_append, List.length_cons] at hadvanced
    omega
  have hfields : Reads (readFieldsFrom .wanted (readNamedField (jsonFields (depth + 1)))
      (cur.advance.bound + 1) true ({}, [])) cur.advance
      ((c.params.mapM Param.reread?).map fun ps =>
        (⟨c.expression, ps⟩, ["params", "expression"])) ('}' :: rest) := by
    rw [hfuel]
    exact readFields_toJson hfits hadvanced hstart
  have hcomplete : ∀ found ∈ (c.params.mapM Param.reread?).map fun ps =>
        ((⟨c.expression, ps⟩ : Condition), ["params", "expression"]),
      (jsonFields 0).find? (·.name ∉ found.2) = none := by
    intro found hfound
    obtain ⟨ps, -, rfl⟩ := Option.map_eq_some_iff.mp hfound
    rfl
  have hrecord : Reads (readRecord "a condition" (depth + 2) jsonFields true {}) cur _ rest :=
    readRecord_reads (readFields_reads hfields) hcomplete hcur
  rwa [Option.map_map] at hrecord

/-- **A condition is read from its text with each of its values read again**; it is refused if
one of them is. -/
theorem ofJsonText_toJson (hfits : ∀ p ∈ c.params, p.Fits) :
    (ofJsonText c.toJson.compact).toOption =
      (c.params.mapM Param.reread?).map (⟨c.expression, ·⟩) := by
  have hchars := compact_toJson c
  generalize c.toJson.compact = text at hchars ⊢
  exact readAll_toOption (readRecord_toJson hfits le_rfl hchars)

end conditions

end Condition

end PropertyFilter
