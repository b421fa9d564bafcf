import PropertyFilter.Number.Binary64
import PropertyFilter.Number.Digits

/-!
  # Decimal fractions

  A decimal fraction is a whole number times a power of ten. Its text has digits
  with an optional point, at least one digit on either side of it, and an optional
  exponent. The double precision number of a text is the one nearest to the exact
  value, whatever the number of digits.
-/

namespace PropertyFilter

/-- The fraction `digits * 10 ^ exponent`. -/
structure Decimal where
  digits : Nat
  exponent : Int
deriving DecidableEq, Repr

namespace Decimal

/-! ## Section 1: Texts -/

/-- The value of a run of digits with an optional sign. -/
def signedRun? (cs : List Char) : Option Int :=
  let run (cs : List Char) : Option Nat :=
    if Digits.isRun cs then some (Digits.ofDigits cs) else none
  match cs with
  | '+' :: rest => (run rest).map Int.ofNat
  | '-' :: rest => (run rest).map fun n => -Int.ofNat n
  | _ => (run cs).map Int.ofNat

/-- The exponent that ends a text: nothing, or `e` or `E` and a whole number. -/
def exponent? : List Char → Option Int
  | [] => some 0
  | c :: rest => if c = 'e' || c = 'E' then signedRun? rest else none

/-- The digits behind a point, if there is one, and the text behind them. -/
def splitFraction : List Char → List Char × List Char
  | '.' :: rest => rest.span Digits.isDigit
  | rest => ([], rest)

/-- The fraction that a text without a sign denotes. -/
def ofText? (cs : List Char) : Option Decimal :=
  let (whole, rest) := cs.span Digits.isDigit
  let (fraction, rest) := splitFraction rest
  if whole.isEmpty && fraction.isEmpty then none
  else
    (exponent? rest).map fun e => ⟨Digits.ofDigits (whole ++ fraction), e - fraction.length⟩

/-! ## Section 2: The nearest number -/

/-- The double precision number nearest to a fraction. The two bounds save work
only: beyond them the number is infinite, or zero. -/
def toBinary64 (negative : Bool) (d : Decimal) : Binary64 :=
  let point := d.exponent + (Digits.toDigits d.digits).length
  if d.digits = 0 || point < -400 then Binary64.ofFraction negative 0 1
  else if 400 < point then .infinite negative
  else if 0 ≤ d.exponent then
    Binary64.ofFraction negative (d.digits * Nat.pow 10 d.exponent.toNat) 1
  else
    Binary64.ofFraction negative d.digits (Nat.pow 10 (-d.exponent).toNat)

end Decimal

namespace Binary64

/-- The words for the numbers that have no digits, in lower case. -/
def ofWord? (negative : Bool) (word : String) : Option Binary64 :=
  if word = "inf" || word = "infinity" then some (.infinite negative)
  else if word = "nan" then some .nan
  else none

/-- The number that a text denotes: a decimal fraction or one of the words, in any
case, with an optional sign. -/
def ofText? (cs : List Char) : Option Binary64 :=
  let (negative, body) := match cs with
    | '+' :: rest => (false, rest)
    | '-' :: rest => (true, rest)
    | _ => (false, cs)
  match ofWord? negative (String.ofList (body.map Char.toLower)) with
  | some x => some x
  | none => (Decimal.ofText? body).map (Decimal.toBinary64 negative)

end Binary64

end PropertyFilter
