import PropertyFilter.Number.Binary64

/-!
  # JSON values

  The values of the JSON data format. A number that is written without a point or
  an exponent is an integer as long as 64 bits hold it. The fields of an object are
  kept in the order in which they are written; `insertField` keeps them in the
  order of their names, one field for each name.
-/

namespace PropertyFilter

/-- A JSON value. -/
inductive Json
  | null
  | bool (b : Bool)
  | int (n : Int)
  | float (x : Binary64)
  | text (s : String)
  | array (items : List Json)
  | object (fields : List (String × Json))

namespace Json

/-- Puts a field in its place by name; a field of the same name is replaced. -/
def insertField (name : String) (value : Json) : List (String × Json) → List (String × Json)
  | [] => [(name, value)]
  | (other, old) :: rest =>
    if name = other then (name, value) :: rest
    else if name < other then (name, value) :: (other, old) :: rest
    else (other, old) :: insertField name value rest

/-- The least integer of 64 bits with a sign. -/
abbrev minInt : Int := -0x8000000000000000

/-- The largest integer of 64 bits without a sign. -/
abbrev maxInt : Int := 0xFFFFFFFFFFFFFFFF

end Json

end PropertyFilter
