import PropertyFilter.Json.Value

/-!
  # Keys

  A filter is about the property that its key names. Keys may come from JSON, so
  that other values turn up where a name is expected; they are told apart here and
  refused by the conversion.
-/

namespace PropertyFilter

/-- What a filter is about. -/
inductive Key
  /-- the property of that name -/
  | name (property : String)
  /-- kept for filters that span several properties -/
  | index (n : Int)
  /-- any other value; it names nothing -/
  | other (value : Json)

/-- The key that a JSON value stands for. An integer is an index only if 64 bits
with a sign hold it. -/
def Key.ofJson : Json → Key
  | .text s => .name s
  | .int n => if n < 0x8000000000000000 then .index n else .other (.int n)
  | value => .other value

/-- A floating point number names nothing; one without digits is `null`. -/
def Key.ofFloat (x : Binary64) : Key :=
  .other (if x.isFinite then .float x else .null)

end PropertyFilter
