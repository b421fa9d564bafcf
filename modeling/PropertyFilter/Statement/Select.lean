import PropertyFilter.Condition.Basic
import PropertyFilter.Statement.Dialect
import PropertyFilter.Statement.Word

/-!
  # Conditions in a statement

  A condition becomes a part of a statement in three steps: its `?` are written as
  the placeholders of the dialect, numbered from 1; the placeholders are found again
  among the words of the text and filled with values; and the values are written,
  either as placeholders of the whole statement or as literals.

      fill?      words and values  → text and values in their places
      bound      text and values   → the statement with placeholders, and its values
      inlined    text and values   → the statement with literals

  A placeholder for which there is no value makes the statement impossible.
-/

namespace PropertyFilter.Statement

/-- A stretch of a statement: text, or a value in its place. -/
inductive Part
  | text (cs : List Char)
  | value (b : Bound)
deriving DecidableEq

/-! ## Section 1: Placing values -/

/-- The text with its `?` written as placeholders of the dialect, the first of which
is number `n`. -/
def withPlaceholders (d : Dialect) (n : Nat) : List Char → List Char
  | [] => []
  | c :: cs =>
    if c = '?' then d.placeholder n ++ withPlaceholders d (n + 1) cs
    else c :: withPlaceholders d n cs

/-- Is it the mark of a placeholder? -/
def isMark (d : Dialect) (p : Piece SqlWord) : Bool := p.kind = .mark && p.chars = [d.mark]

/-- The number that a word is, if 64 bits hold it. -/
def number? (p : Piece SqlWord) : Option Nat :=
  let n := Digits.ofDigits p.chars
  if Digits.isRun p.chars && n ≤ 0xFFFFFFFFFFFFFFFF then some n else none

/-- The value with a number, counted from 1. -/
def numbered? (params : List Param) : Nat → Option Param
  | 0 => none
  | n + 1 => params[n]?

/-- Fills the placeholders of a text with values; none if there is no value for one.
A doubled mark is the mark itself. In a numbered dialect the word behind a mark is the
number of the value, and nothing if it is no number; other marks take the values in
their order, from number `next` on. -/
def fill? (d : Dialect) (params : List Param) (next : Nat) :
    List (Piece SqlWord) → Option (List Part)
  | [] => some []
  | p :: rest =>
    let inOrder (rest : Option (List Part)) : Option (List Part) := do
      let v ← params[next]?
      return .value (.param v) :: (← rest)
    if isMark d p then
      match rest with
      | [] => inOrder (some [])
      | q :: behind =>
        if isMark d q then (fill? d params next behind).map (.text q.chars :: ·)
        else if d.isNumbered && q.kind = .word then
          match number? q with
          | some n => do
            let v ← numbered? params n
            return .value (.param v) :: (← fill? d params next behind)
          | none => fill? d params next behind
        else inOrder (fill? d params (next + 1) (q :: behind))
    else (fill? d params next rest).map (.text p.chars :: ·)

/-- A condition in a statement; the empty one is the truth value. -/
def ofCondition? (d : Dialect) (c : Condition) : Option (List Part) :=
  if c.isEmpty then some [.value .truth]
  else fill? d c.params 0 (sqlWords (withPlaceholders d 1 c.expression.toList))

/-! ## Section 2: Statements -/

/-- All rows of a table that meet some conditions. -/
structure Select where
  table : String
  conditions : List Condition

/-- The conditions of a statement joined by `AND`, those that are not empty in
parentheses if `several`. -/
def conjunction? (d : Dialect) (several : Bool) : List Condition → Option (List Part)
  | [] => some []
  | c :: rest => do
    let inner ← ofCondition? d c
    let parts := if several && !c.isEmpty then .text ['('] :: inner ++ [.text [')']] else inner
    let more ← conjunction? d several rest
    return if rest.isEmpty then parts else parts ++ .text " AND ".toList :: more

/-- The parts of a statement; none if a placeholder has no value. -/
def Select.parts? (d : Dialect) (s : Select) : Option (List Part) := do
  let head := Part.text ("SELECT * FROM ".toList ++ d.quoteName s.table)
  if s.conditions.isEmpty then return [head]
  let conditions ← conjunction? d (1 < s.conditions.length) s.conditions
  return head :: .text " WHERE ".toList :: conditions

/-! ## Section 3: Texts -/

/-- The text with a placeholder for every value, the first of which is number `n`. -/
def boundText (d : Dialect) (n : Nat) : List Part → List Char
  | [] => []
  | .text cs :: rest => cs ++ boundText d n rest
  | .value _ :: rest => d.placeholder n ++ boundText d (n + 1) rest

/-- The values, in their order. -/
def values (parts : List Part) : List Bound :=
  parts.filterMap fun
    | .text _ => none
    | .value b => some b

/-- The text with a literal for every value. -/
def inlineText (d : Dialect) (parts : List Part) : List Char :=
  parts.flatMap fun
    | .text cs => cs
    | .value b => d.literal b

/-- The statement with placeholders, and the values bound to them. -/
def Select.bound? (d : Dialect) (s : Select) : Option (String × List Bound) :=
  (s.parts? d).map fun parts => (String.ofList (boundText d 1 parts), values parts)

/-- The statement with literals. -/
def Select.inlined? (d : Dialect) (s : Select) : Option String :=
  (s.parts? d).map fun parts => String.ofList (inlineText d parts)

end PropertyFilter.Statement
