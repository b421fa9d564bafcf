import PropertyFilter.Text.Blank

/-!
  # Lines of a session

  A line is a command if it starts with a colon and the name of one, and a filter
  otherwise. Commands with an argument need a single space behind their name; a
  command without its argument asks for help.
-/

namespace PropertyFilter

/-- What a line of a session asks for. -/
inductive Command
  /-- to make filters about another property -/
  | key (name : String)
  /-- to read a date -/
  | date (text : String)
  | help
  | quit
  /-- to convert a filter -/
  | filter (value : String)
deriving DecidableEq, Repr

namespace Command

/-- A text in front of and behind its first space, if it has one. -/
def splitAtSpace? (cs : List Char) : Option (List Char × List Char) :=
  match cs.span (· ≠ ' ') with
  | (_, []) => none
  | (front, _ :: behind) => some (front, behind)

/-- What a line without white space at its ends asks for. -/
def ofText (input : String) : Command :=
  match splitAtSpace? input.toList with
  | some (name, argument) =>
    let argument := String.ofList (Text.trim argument)
    if name = ":key".toList then .key argument
    else if name = ":date".toList then .date argument
    else .filter input
  | none =>
    if input = ":key" || input = ":date" || input = ":help" then .help
    else if input = ":quit" then .quit
    else .filter input

/-- What a line asks for; a blank line asks for nothing. -/
def ofLine? (line : String) : Option Command :=
  let input := Text.trim line.toList
  if input.isEmpty then none else some (ofText (String.ofList input))

end Command

end PropertyFilter
