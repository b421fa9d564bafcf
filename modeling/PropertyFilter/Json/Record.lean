import PropertyFilter.Json.Printer
import PropertyFilter.Json.Reader
import PropertyFilter.Text.Quoted

/-!
  # Reading records

  A record is a value with named fields of known shapes. Its JSON form is an object
  of these fields in any order, others being ignored, or an array of them in their
  order. The first thing that is wrong in the text is what is reported.
-/

namespace PropertyFilter.Json

/-! ## Section 1: Values of another shape -/

/-- A value as it is named in a report. -/
def describe : Json → String
  | .null => "null"
  | .bool b => "boolean `" ++ (if b then "true" else "false") ++ "`"
  | .int n => "integer `" ++ Digits.ofInt n ++ "`"
  | .float x => "floating point `" ++ Layout.json.text x ++ "`"
  | .text s => "string " ++ Text.quoted s
  | .array _ => "sequence"
  | .object _ => "map"

/-- The report that the value ahead is not the one that is wanted, unless it cannot
be read at all. -/
def wrongShape (wanted : String) (cur : Cursor) : ReadError :=
  let report (v : Json) (cur : Cursor) : ReadError :=
    cur.fault (.shape ("invalid type: " ++ describe v ++ ", expected " ++ wanted))
  match cur.rest with
  | '[' :: _ => report (.array []) cur
  | '{' :: _ => report (.object []) cur
  | _ =>
    match readScalar cur with
    | .ok (v, cur) => report v cur
    | .error e => e

/-- Reads a text. -/
def readWantedText : Reader String := fun cur =>
  let cur := cur.skipSpace
  match cur.rest with
  | [] => .error (cur.fault .endInValue)
  | '"' :: _ => readText .wanted cur.advance
  | _ => .error (wrongShape "a string" cur)

/-- Reads a text or `null`. -/
def readWantedText? : Reader (Option String) := fun cur =>
  let cur := cur.skipSpace
  match cur.rest with
  | 'n' :: _ => (readWord "ull".toList cur.advance).map fun cur => (none, cur)
  | _ => (readWantedText cur).map fun (s, cur) => (some s, cur)

/-! ## Section 2: Records -/

/-- A field of a record that is read into a state. -/
structure RecordField (σ : Type) where
  name : String
  read : σ → Reader σ

/-- Where a reader stands once it has tried to end an object. -/
def afterFields (cur : Cursor) : Cursor :=
  let cur := cur.skipSpace
  match cur.rest with
  | '}' :: _ => cur.advance
  | _ => cur

/-- Reads what is behind the name of a record's field. A name that is not known is skipped
with its value, one that was there before is refused. -/
def readNamedField {σ : Type} (known : List (RecordField σ)) :
    σ × List String → String → Reader (σ × List String) :=
  fun (state, seen) name cur =>
    match known.find? (·.name = name) with
    | none => do
      let cur ← skipValue (← colon cur)
      return ((state, seen), cur)
    | some field =>
      if name ∈ seen then
        throw ((afterFields cur).fault (.shape ("duplicate field `" ++ name ++ "`")))
      else do
        let (state, cur) ← field.read state (← colon cur)
        return ((state, name :: seen), cur)

/-- Reads the fields of a record from an object; each may come once. -/
def readRecordFields {σ : Type} (known : List (RecordField σ)) (state : σ) :
    Reader (σ × List String) :=
  readFields .wanted (readNamedField known) (state, [])

/-- Reads the fields of a record from an array, as many as there are. -/
def readRecordItems {σ : Type} (state : σ) (first : Bool) :
    List (RecordField σ) → Reader (σ × List String)
  | [], cur => .ok ((state, []), cur)
  | field :: rest, cur => do
    match ← nextItem .wanted first cur with
    | none => return ((state, []), cur)
    | some cur =>
      let (state, cur) ← field.read state cur
      let ((state, seen), cur) ← readRecordItems state false rest cur
      return ((state, field.name :: seen), cur)

/-- Reads a record: the state that its fields leave, and the names of those that
were there. Unless a field may be missing, it is reported before the text goes on. -/
def readRecord {σ : Type} (wanted : String) (depth : Nat) (known : Nat → List (RecordField σ))
    (complete : Bool) (state : σ) : Reader σ := fun cur =>
  let cur := cur.skipSpace
  let finish (seen : List String) (cur : Cursor) : Except ReadError Unit :=
    match (known 0).find? (·.name ∉ seen) with
    | some missing =>
      if complete then throw (cur.fault (.shape ("missing field `" ++ missing.name ++ "`")))
      else pure ()
    | none => pure ()
  match cur.rest, depth with
  | [], _ => .error (cur.fault .endInValue)
  | '{' :: _, d + 1 => do
    let ((state, seen), cur) ← readRecordFields (known d) state cur.advance
    finish seen cur
    return (state, cur)
  | '[' :: _, d + 1 => do
    let ((state, seen), cur) ← readRecordItems state true (known d) cur.advance
    finish seen cur
    return (state, ← endItems cur)
  | '[' :: _, 0 | '{' :: _, 0 => .error (cur.faultAhead .nestedTooDeep)
  | _, _ => .error (wrongShape wanted cur)

end PropertyFilter.Json
