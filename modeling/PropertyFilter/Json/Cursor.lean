import PropertyFilter.Text.Bytes

/-!
  # Reading positions and faults

  A reader stands between the part of a text that it has read and the rest. What
  it cannot read is reported with the byte offset at which it noticed, either right
  there or at the character ahead.
-/

namespace PropertyFilter.Json

/-! ## Section 1: Faults -/

/-- Why a text cannot be read as the value that is wanted. -/
inductive Cause
  | endInArray
  | endInObject
  | endInText
  | endInValue
  | missingColon
  | missingComma
  | missingObjectComma
  | badWord
  | missingValue
  | badEscape
  | badNumber
  | numberTooLarge
  | controlCharacter
  | keyNotText
  | loneSurrogate
  | missingSurrogate
  | trailingComma
  | trailingCharacters
  | nestedTooDeep
  /-- A value that is well formed but not the one that is wanted. -/
  | shape (what : String)
deriving DecidableEq, Repr

/-- What kind of trouble a cause is. -/
inductive Category
  /-- The text ends too early. -/
  | ended
  /-- The text is no JSON. -/
  | malformed
  /-- The text is JSON of the wrong shape. -/
  | shape
deriving DecidableEq, Repr

namespace Cause

/-- The kind of trouble. -/
def category : Cause → Category
  | endInArray | endInObject | endInText | endInValue => .ended
  | shape _ => .shape
  | _ => .malformed

/-- The wording of a cause. -/
def message : Cause → String
  | endInArray => "EOF while parsing a list"
  | endInObject => "EOF while parsing an object"
  | endInText => "EOF while parsing a string"
  | endInValue => "EOF while parsing a value"
  | missingColon => "expected `:`"
  | missingComma => "expected `,` or `]`"
  | missingObjectComma => "expected `,` or `\x7d`"
  | badWord => "expected ident"
  | missingValue => "expected value"
  | badEscape => "invalid escape"
  | badNumber => "invalid number"
  | numberTooLarge => "number out of range"
  | controlCharacter => "control character (\\u0000-\\u001F) found while parsing a string"
  | keyNotText => "key must be a string"
  | loneSurrogate => "lone leading surrogate in hex escape"
  | missingSurrogate => "unexpected end of hex escape"
  | trailingComma => "trailing comma"
  | trailingCharacters => "trailing characters"
  | nestedTooDeep => "recursion limit exceeded"
  | shape what => what

end Cause

/-- A cause and the byte offset at which it was noticed. -/
structure ReadError where
  cause : Cause
  offset : Nat
deriving DecidableEq, Repr

/-! ## Section 2: Lines and columns -/

/-- The line of a byte offset, from 1, and the number of bytes before it in its
line. -/
def lineAndColumn (offset : Nat) (text : List Char) : Nat × Nat :=
  go 1 0 offset text
where
  /-- `left` bytes are still to go, `column` lie behind in this line. -/
  go (line column left : Nat) : List Char → Nat × Nat
    | [] => (line, column + left)
    | c :: rest =>
      if left = 0 then (line, column)
      else if left < c.utf8Size then (line, column + left)
      else if c = '\n' then go (line + 1) 0 (left - 1) rest
      else go line (column + c.utf8Size) (left - c.utf8Size) rest

/-- The wording of a fault in a text. -/
def ReadError.message (text : String) (e : ReadError) : String :=
  let (line, column) := lineAndColumn e.offset text.toList
  e.cause.message ++ " at line " ++ toString line ++ " column " ++ toString column

/-! ## Section 3: Positions -/

/-- The rest of a text and the number of bytes before it. -/
structure Cursor where
  rest : List Char
  offset : Nat := 0
  /-- The number of characters of the whole text, which bounds every loop over it. -/
  bound : Nat := rest.length
deriving DecidableEq, Repr

namespace Cursor

/-- The start of a text. -/
def ofText (text : String) : Cursor := { rest := text.toList }

/-- Past the next character. -/
def advance (cur : Cursor) : Cursor :=
  match cur.rest with
  | [] => cur
  | c :: rest => { cur with rest, offset := cur.offset + c.utf8Size }

/-- White space between the parts of a JSON text. -/
def isSpace (c : Char) : Bool := c = ' ' || c = '\n' || c = '\t' || c = '\r'

/-- Past white space. -/
def skipSpace (cur : Cursor) : Cursor :=
  let (space, rest) := cur.rest.span isSpace
  { cur with rest, offset := cur.offset + space.length }

/-- A fault noticed right here. -/
def fault (cur : Cursor) (cause : Cause) : ReadError := ⟨cause, cur.offset⟩

/-- A fault noticed at the first byte ahead, if there is one. -/
def faultAhead (cur : Cursor) (cause : Cause) : ReadError :=
  ⟨cause, if cur.rest.isEmpty then cur.offset else cur.offset + 1⟩

end Cursor

/-- Reads something from the front of a text. -/
abbrev Reader (α : Type) := Cursor → Except ReadError (α × Cursor)

end PropertyFilter.Json
