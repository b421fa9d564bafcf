import PropertyFilter.Log.Record
import PropertyFilter.Text.Quoted

/-!
  # Lines of a log

  A record is one line: the time, the level set right in five columns, the message
  and the fields in their order.
-/

namespace PropertyFilter.Log

/-- A field as it stands in a line. -/
def Field.written : Field → String
  | plain text => text
  | quoted text => Text.quoted text

/-- The name of a level with spaces in front, five characters long. -/
def Level.column (l : Level) : String :=
  String.ofList (List.replicate (5 - l.name.length) ' ') ++ l.name

/-- The line of a record. -/
def Record.line (time : String) (r : Record) : String :=
  time ++ " " ++ r.level.column ++ " " ++ r.message ++
    String.join (r.fields.map fun (name, field) => " " ++ name ++ "=" ++ field.written)

end PropertyFilter.Log
