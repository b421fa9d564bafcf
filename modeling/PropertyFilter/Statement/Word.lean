import PropertyFilter.Text.Alphabetic
import PropertyFilter.Token.Scanner
import PropertyFilter.Number.Digits

/-!
  # The words of an SQL text

  To find the placeholders of an SQL text it is cut into white space, words, quoted
  runs and single other characters, so that a mark inside quotes or as a part of a
  word is left alone. The last rule takes any character: every text can be cut.
-/

namespace PropertyFilter.Statement

/-- What a stretch of an SQL text is. -/
inductive SqlWord
  | space
  /-- letters and digits, behind the first of them also `_` and `$` -/
  | word
  /-- a run in quotes or brackets -/
  | quoted
  /-- any other character -/
  | mark
deriving DecidableEq, Repr

/-- White space of an SQL text. -/
def isSqlSpace (c : Char) : Bool := c = ' ' || c = '\t' || c = '\r' || c = '\n'

/-- A letter of any script or an ASCII digit. -/
def isWordStart (c : Char) : Bool := Text.isAlphabetic c || Digits.isDigit c

/-- A character of a word behind its first. -/
def isWordPart (c : Char) : Bool := isWordStart c || c = '_' || c = '$'

/-- Takes a word. -/
def wordMatcher : Matcher
  | [] => none
  | c :: rest => if isWordStart c then some (1 + (rest.takeWhile isWordPart).length) else none

/-- The mark that closes a quoted run, and whether it stands for itself when doubled. -/
def closing? (c : Char) : Option (Char × Bool) :=
  if c = '`' || c = '\'' || c = '"' then some (c, true)
  else if c = '[' then some (']', false)
  else none

/-- The number of characters up to the closing mark of a quoted run, or up to the end
of the text. A backslash takes the meaning off the character behind it. -/
def quotedLength (close : Char) (doubling escaped : Bool) : List Char → Nat
  | [] => 0
  | c :: rest =>
    if escaped then 1 + quotedLength close doubling false rest
    else if c = close then
      match rest with
      | d :: rest => if doubling && d = close then 2 + quotedLength close doubling false rest else 1
      | [] => 1
    else 1 + quotedLength close doubling (c = '\\') rest

/-- Takes a quoted run. -/
def quotedMatcher : Matcher
  | [] => none
  | c :: rest => (closing? c).map fun (close, doubling) => 1 + quotedLength close doubling false rest

/-- The rules for SQL texts. -/
def sqlRules : List (Rule SqlWord) :=
  [ ⟨.many1 isSqlSpace, .space⟩
  , ⟨wordMatcher, .word⟩
  , ⟨quotedMatcher, .quoted⟩
  , ⟨fun _ => some 1, .mark⟩ ]

/-- The words of an SQL text. -/
def sqlWords (cs : List Char) : List (Piece SqlWord) := (cut sqlRules cs).1

end PropertyFilter.Statement
