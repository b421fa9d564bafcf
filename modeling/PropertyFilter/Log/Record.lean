/-!
  # Log records

  A record has a level, a message and named fields in their order. A field is
  written plainly or as a quoted text.
-/

namespace PropertyFilter.Log

/-- How much a record matters, from the most to the least. -/
inductive Level
  | error
  | warn
  | info
  | debug
  | trace
deriving DecidableEq, Repr

/-- The name of a level. -/
def Level.name : Level → String
  | error => "ERROR"
  | warn => "WARN"
  | info => "INFO"
  | debug => "DEBUG"
  | trace => "TRACE"

/-- The place of a level: 1 for errors up to 5 for traces. -/
def Level.rank : Level → Nat
  | error => 1
  | warn => 2
  | info => 3
  | debug => 4
  | trace => 5

/-- The value of a field and how it is written. -/
inductive Field
  /-- written as it is -/
  | plain (text : String)
  /-- written in quotes -/
  | quoted (text : String)
deriving DecidableEq, Repr

/-- The value of a field, however it is written. -/
def Field.text : Field → String
  | plain text => text
  | quoted text => text

/-- What is logged. -/
structure Record where
  level : Level
  message : String
  fields : List (String × Field) := []
deriving DecidableEq, Repr

/-- Has the record a field of this name? The message is one. -/
def Record.has (r : Record) (name : String) : Bool :=
  name = "message" || r.fields.any (·.1 = name)

end PropertyFilter.Log
