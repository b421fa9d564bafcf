import PropertyFilter.Number.Layout

/-!
  # Bound values

  The values of a condition are bound to its placeholders and never become part
  of its text. Integers and floating point numbers stay distinct, so that a value
  is bound with the type that it was written in.
-/

namespace PropertyFilter

/-- A value bound to a placeholder. -/
inductive Param
  /-- an integer of 64 bits -/
  | int (n : Int)
  | float (x : Binary64)
  | text (s : String)
deriving DecidableEq

namespace Param

/-- The largest integer of 64 bits. -/
abbrev maxInt : Nat := 0x7FFFFFFFFFFFFFFF

/-- The value of a number's text: digits alone are an integer as long as they fit
one, any other number is a floating point number. -/
def ofNumber? (text : String) : Option Param :=
  let cs := text.toList
  let n := Digits.ofDigits cs
  if Digits.isRun cs && n ≤ maxInt then some (.int n)
  else (Binary64.ofText? cs).map .float

/-- The text of a text value; numbers have none. -/
def text? : Param → Option String
  | .text s => some s
  | _ => none

/-- A value as a reader sees it: texts in single quotes, nothing escaped. -/
def display : Param → String
  | .int n => Digits.ofInt n
  | .float x => Layout.display.text x
  | .text s => "'" ++ s ++ "'"

end Param

end PropertyFilter
