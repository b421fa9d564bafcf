import PropertyFilter.Condition.Basic
import PropertyFilter.Json.Record

/-!
  # Conditions as JSON

  A condition is an object of its expression and its values, a value a plain
  number or text. The type of a value shows in how it is written: a number with a
  point or an exponent is a floating point number, and so is an integer that 64
  bits with a sign do not hold.
-/

namespace PropertyFilter

/-! ## Section 1: Writing -/

/-- A value as a plain number or text. -/
def Param.toJson : Param → Json
  | .int n => .int n
  | .float x => .float x
  | .text s => .text s

/-- A condition as an object. -/
def Condition.toJson (c : Condition) : Json :=
  .object [("expression", .text c.expression), ("params", .array (c.params.map Param.toJson))]

/-! ## Section 2: Reading -/

/-- The value that a plain number or text stands for; other values stand for none. -/
def Param.ofJson? : Json → Option Param
  | .int n => some (if n ≤ Param.maxInt then .int n else .float (Binary64.ofInt n))
  | .float x => some (.float x)
  | .text s => some (.text s)
  | _ => none

/-- Reads a bound value. -/
def Param.read (depth : Nat) : Json.Reader Param := fun cur => do
  let (v, cur) ← Json.readValue depth cur
  match Param.ofJson? v with
  | some p => return (p, cur)
  | none => throw (cur.fault (.shape "a value is a number or a text"))

namespace Condition

/-- Reads the values of a condition. -/
def readParams (depth : Nat) : Json.Reader (List Param) := fun cur =>
  let cur := cur.skipSpace
  match cur.rest, depth with
  | [], _ => .error (cur.fault .endInValue)
  | '[' :: _, d + 1 => Json.readItems .wanted (Param.read d) cur.advance
  | '[' :: _, 0 => .error (cur.faultAhead .nestedTooDeep)
  | _, _ => .error (Json.wrongShape "a sequence" cur)

/-- The fields of a condition, none of which may be missing. -/
def jsonFields (depth : Nat) : List (Json.RecordField Condition) :=
  [ ⟨"expression", fun c cur => do
      let (s, cur) ← Json.readWantedText cur
      return ({ c with expression := s }, cur)⟩
  , ⟨"params", fun c cur => do
      let (ps, cur) ← readParams depth cur
      return ({ c with params := ps }, cur)⟩ ]

/-- The condition that a JSON text stands for. -/
def ofJsonText (source : String) : Except Json.ReadError Condition :=
  Json.readAll (Json.readRecord "a condition" Json.depthLimit jsonFields true {}) source

end Condition

/-- The bound value that a JSON text stands for. -/
def Param.ofJsonText (source : String) : Except Json.ReadError Param :=
  Json.readAll (Param.read Json.depthLimit) source

end PropertyFilter
