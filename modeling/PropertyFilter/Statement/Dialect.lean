import PropertyFilter.Condition.Param

/-!
  # SQL dialects

  Dialects differ in how a placeholder is written, in the quotes around a name, and
  in how a text is written as a literal.
-/

namespace PropertyFilter.Statement

/-- A dialect of SQL. -/
inductive Dialect
  | postgres
  | mysql
  | sqlite
deriving DecidableEq, Repr

/-- A value of a statement: a bound value of a condition, or the truth value that an
empty condition stands for. -/
inductive Bound
  | param (p : Param)
  | truth
deriving DecidableEq

namespace Dialect

/-! ## Section 1: Placeholders and names -/

/-- The character that a placeholder begins with. -/
def mark : Dialect → Char
  | postgres => '$'
  | mysql | sqlite => '?'

/-- Are placeholders numbered? -/
def isNumbered : Dialect → Bool
  | postgres => true
  | mysql | sqlite => false

/-- The placeholder of the `n`-th value. -/
def placeholder (d : Dialect) (n : Nat) : List Char :=
  d.mark :: if d.isNumbered then Digits.toDigits n else []

/-- The quote around a name. -/
def nameQuote : Dialect → Char
  | mysql => '`'
  | postgres | sqlite => '"'

/-- A name in quotes; a quote in it is doubled. -/
def quoteName (d : Dialect) (name : String) : List Char :=
  let q := d.nameQuote
  q :: (name.toList.flatMap fun c => if c = q then [q, q] else [c]) ++ [q]

/-! ## Section 2: Literals -/

/-- A character of a text behind a backslash, where it would end the text or not show
in it. -/
def backslashed (c : Char) : List Char :=
  if c = '\\' || c = '"' || c = '\'' then ['\\', c]
  else if c.toNat = 0 then ['\\', '0']
  else if c.toNat = 8 then ['\\', 'b']
  else if c = '\t' then ['\\', 't']
  else if c.toNat = 26 then ['\\', 'z']
  else if c = '\n' then ['\\', 'n']
  else if c = '\r' then ['\\', 'r']
  else [c]

/-- A text as a literal. Where a backslash has a meaning only in a marked literal,
the literal is marked if there is one. -/
def textLiteral (d : Dialect) (s : String) : List Char :=
  let quoted (cs : List Char) := '\'' :: (cs ++ ['\''])
  match d with
  | sqlite => quoted (s.toList.flatMap fun c => if c = '\'' then ['\'', '\''] else [c])
  | mysql => quoted (s.toList.flatMap backslashed)
  | postgres =>
    let cs := s.toList.flatMap backslashed
    if '\\' ∈ cs then 'E' :: quoted cs else quoted cs

/-- A value as a literal. -/
def literal (d : Dialect) : Bound → List Char
  | .truth => "TRUE".toList
  | .param (.text s) => d.textLiteral s
  | .param p => p.display.toList

end Dialect

end PropertyFilter.Statement
