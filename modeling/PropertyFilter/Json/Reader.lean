import PropertyFilter.Json.Scalar

/-!
  # Reading arrays and objects

  Arrays and objects are read item by item and field by field; `readItems` and
  `readFields` take the reader of an item, or of a field's value, as an argument. Each
  item uses up at least one character, so the number of characters of the text bounds
  the number of items.

  A value that is wanted may be nested 127 deep; one that is skipped has no bound
  but the length of the text.
-/

namespace PropertyFilter.Json

/-! ## Section 1: Items -/

/-- Finds the next item of an array; none at the closing bracket, which stays. -/
def nextItem (m : Manner) (first : Bool) (cur : Cursor) : Except ReadError (Option Cursor) :=
  let cur := cur.skipSpace
  match cur.rest with
  | [] => .error (cur.fault .endInArray)
  | c :: _ =>
    if c = ']' then .ok none
    else if first then .ok (some cur)
    else if c = ',' then
      let cur := cur.advance.skipSpace
      match cur.rest with
      | [] => .error (cur.fault .endInValue)
      | d :: _ => if d = ']' then .error (cur.faultAhead m.arrayComma) else .ok (some cur)
    else .error (cur.faultAhead .missingComma)

/-- Reads items up to the closing bracket, which stays. -/
def readItemsFrom {α : Type} (m : Manner) (read : Reader α) :
    Nat → Bool → Cursor → Except ReadError (List α × Cursor)
  | 0, _, cur => .error (cur.fault .endInArray)
  | fuel + 1, first, cur => do
    match ← nextItem m first cur with
    | none => return ([], cur.skipSpace)
    | some cur =>
      let (x, cur) ← read cur
      let (xs, cur) ← readItemsFrom m read fuel false cur
      return (x :: xs, cur)

/-- Reads the items of an array behind its opening bracket. -/
def readItems {α : Type} (m : Manner) (read : Reader α) : Reader (List α) := fun cur => do
  let (xs, cur) ← readItemsFrom m read (cur.bound + 1) true cur
  return (xs, cur.advance)

/-- Ends an array whose items have all been read. -/
def endItems (cur : Cursor) : Except ReadError Cursor :=
  let cur := cur.skipSpace
  match cur.rest with
  | [] => .error (cur.fault .endInArray)
  | c :: _ =>
    if c = ']' then .ok cur.advance
    else if c = ',' then
      let cur := cur.advance.skipSpace
      match cur.rest with
      | ']' :: _ => .error (cur.faultAhead .trailingComma)
      | _ => .error (cur.faultAhead .trailingCharacters)
    else .error (cur.faultAhead .trailingCharacters)

/-! ## Section 2: Fields -/

/-- Finds the next field of an object and reads its name; none at the closing brace,
which stays. -/
def nextField (m : Manner) (first : Bool) (cur : Cursor) :
    Except ReadError (Option (String × Cursor)) :=
  let cur := cur.skipSpace
  let named (cur : Cursor) (c : Char) : Except ReadError (Option (String × Cursor)) :=
    if c = '"' then (readText m cur.advance).map some else .error (cur.faultAhead .keyNotText)
  match cur.rest with
  | [] => .error (cur.fault .endInObject)
  | c :: _ =>
    if c = '}' then .ok none
    else if first then named cur c
    else if c = ',' then
      let cur := cur.advance.skipSpace
      match cur.rest with
      | [] => .error (cur.fault m.objectEnd)
      | d :: _ => if d = '}' then .error (cur.faultAhead m.objectComma) else named cur d
    else .error (cur.faultAhead .missingObjectComma)

/-- Reads the colon behind a field's name. -/
def colon (cur : Cursor) : Except ReadError Cursor :=
  let cur := cur.skipSpace
  match cur.rest with
  | [] => .error (cur.fault .endInObject)
  | c :: _ => if c = ':' then .ok cur.advance else .error (cur.faultAhead .missingColon)

/-- Reads fields up to the closing brace, which stays. What `onField` makes of a name
and what follows it is collected in a state. -/
def readFieldsFrom {σ : Type} (m : Manner) (onField : σ → String → Reader σ) :
    Nat → Bool → σ → Cursor → Except ReadError (σ × Cursor)
  | 0, _, _, cur => .error (cur.fault .endInObject)
  | fuel + 1, first, state, cur => do
    match ← nextField m first cur with
    | none => return (state, cur.skipSpace)
    | some (name, cur) =>
      let (state, cur) ← onField state name cur
      readFieldsFrom m onField fuel false state cur

/-- Reads the fields of an object behind its opening brace. -/
def readFields {σ : Type} (m : Manner) (onField : σ → String → Reader σ) (state : σ) : Reader σ :=
  fun cur => do
    let (state, cur) ← readFieldsFrom m onField (cur.bound + 1) true state cur
    return (state, cur.advance)

/-! ## Section 3: Values -/

/-- How deep a value may be nested. -/
abbrev depthLimit : Nat := 127

/-- Reads the fields of an object, the last one of a name winning. -/
def readObjectFields (value : Reader Json) : Reader (List (String × Json)) :=
  readFields .wanted (fun found name cur => do
    let (v, cur) ← value (← colon cur)
    return (insertField name v found, cur)) []

/-- Reads a value that is nested at most `depth` deep. -/
def readValue (depth : Nat) : Reader Json := fun cur =>
  let cur := cur.skipSpace
  match cur.rest, depth with
  | '[' :: _, d + 1 =>
    (readItems .wanted (readValue d) cur.advance).map fun (xs, cur) => (.array xs, cur)
  | '{' :: _, d + 1 =>
    (readObjectFields (readValue d) cur.advance).map fun (fs, cur) => (.object fs, cur)
  | '[' :: _, 0 | '{' :: _, 0 => .error (cur.faultAhead .nestedTooDeep)
  | _, _ => readScalar cur

/-- Skips a value that is nested at most `depth` deep. -/
def skipAt (depth : Nat) (cur : Cursor) : Except ReadError Cursor :=
  let cur := cur.skipSpace
  match cur.rest, depth with
  | '[' :: _, d + 1 =>
    let item : Reader Unit := fun cur => (skipAt d cur).map fun cur => ((), cur)
    (readItems .skipped item cur.advance).map Prod.snd
  | '{' :: _, d + 1 =>
    let onField (_ : Unit) (_ : String) : Reader Unit := fun cur => do
      let cur ← skipAt d (← colon cur)
      return ((), cur)
    (readFields .skipped onField () cur.advance).map Prod.snd
  | '[' :: _, 0 | '{' :: _, 0 => .error (cur.faultAhead .nestedTooDeep)
  | _, _ => skipScalar cur

/-- Skips a value, however deep it is nested. -/
def skipValue (cur : Cursor) : Except ReadError Cursor := skipAt cur.bound cur

/-- What a reader makes of a whole text, with nothing but white space behind it. -/
def readAll {α : Type} (read : Reader α) (source : String) : Except ReadError α := do
  let (x, cur) ← read (Cursor.ofText source)
  let cur := cur.skipSpace
  if cur.rest.isEmpty then return x else throw (cur.faultAhead .trailingCharacters)

/-- The value of a text. -/
def ofText (source : String) : Except ReadError Json := readAll (readValue depthLimit) source

end PropertyFilter.Json
