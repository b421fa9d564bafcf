import PropertyFilter.Number.Shortest

/-!
  # Texts of numbers

  A layout says how a number is written once its shortest digits are known: which
  magnitudes are written positionally, whether a whole number keeps a point, and
  what stands for the numbers without digits.

  There are two of them. `display` is always positional (`100`, `0.0000001`);
  `json` always shows a fraction or an exponent (`100.0`, `1e-7`), so that a
  reader can tell the number from an integer.
-/

namespace PropertyFilter

/-- How numbers are written. -/
structure Layout where
  /-- Whether a number with the leading digit at `10^e` is written positionally. -/
  positional : Int → Bool
  /-- Written behind a positional whole number. -/
  wholeEnding : String
  /-- Which of two equally near shortest decimals is taken. -/
  tie : Shortest.Tie
  /-- Stands for the infinite number without a sign, if it can be written. -/
  infinite : Option String
  /-- Stands for not-a-number. -/
  nan : String

namespace Layout

/-- Positional always, no fraction for whole numbers. -/
def display : Layout where
  positional _ := true
  wholeEnding := ""
  tie := .up
  infinite := some "inf"
  nan := "NaN"

/-- Positional from `0.00001` up to but not including `10^16`; nothing but `null`
for what has no digits. -/
def json : Layout where
  positional e := -5 ≤ e && e < 16
  wholeEnding := ".0"
  tie := .even
  infinite := none
  nan := "null"

/-! ## Section 1: Digits with a point -/

/-- Digits written without an exponent; the point stands behind the first `point`
of them. -/
def positionalText (wholeEnding : String) (digits : List Char) (point : Int) : String :=
  if point ≤ 0 then
    "0." ++ String.ofList (List.replicate (-point).toNat '0' ++ digits)
  else if digits.length ≤ point.toNat then
    String.ofList (digits ++ List.replicate (point.toNat - digits.length) '0') ++ wholeEnding
  else
    String.ofList (digits.take point.toNat ++ '.' :: digits.drop point.toNat)

/-- Digits written with the point behind the first and a signed exponent. -/
def exponentText (digits : List Char) (e : Int) : String :=
  let (lead, rest) := (digits.take 1, digits.drop 1)
  let point := if rest.isEmpty then [] else '.' :: rest
  let sign := if e < 0 then '-' else '+'
  String.ofList (lead ++ point ++ ['e', sign] ++ Digits.toDigits e.natAbs)

/-- The text of a decimal fraction that is not zero. -/
def decimalText (l : Layout) (d : Decimal) : String :=
  let digits := Digits.toDigits d.digits
  let point := d.exponent + digits.length
  if l.positional (point - 1) then positionalText l.wholeEnding digits point
  else exponentText digits (point - 1)

/-! ## Section 2: Numbers -/

/-- The sign of a number, which zero has too. -/
def sign (negative : Bool) : String := if negative then "-" else ""

/-- The text of a number. -/
def text (l : Layout) : Binary64 → String
  | .finite negative rank =>
    sign negative ++
      (if rank.val = 0 then "0" ++ l.wholeEnding
      else l.decimalText (Shortest.ofRank l.tie rank.val))
  | .infinite negative =>
    match l.infinite with
    | some word => sign negative ++ word
    | none => l.nan
  | .nan => l.nan

end Layout

end PropertyFilter
