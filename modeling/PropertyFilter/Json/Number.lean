import PropertyFilter.Json.Value
import PropertyFilter.Number.Digits

/-!
  # Numbers in JSON

  A number is an integer if it is written as one and 64 bits hold it; `-0` is none of
  these. Every other number is floating point, and its value is found in steps, each of
  which rounds:

      significand   the digits in their order, as many as 64 bits hold together
      exponent      what the point, the exponent and the digits left over make of it
      scaled        the significand times or divided by a power of ten

  So the value may be next to the nearest one. A number beyond all finite ones is
  refused, and so is one whose exponent 32 bits do not hold, unless it is zero or the
  exponent is negative.
-/

namespace PropertyFilter.Json

/-- The parts of a number as it is written. -/
structure NumberText where
  negative : Bool
  whole : List Char
  fraction : Option (List Char) := none
  /-- whether it is negative, and its digits -/
  exponent : Option (Bool × List Char) := none

/-! ## Section 1: Digits -/

/-- Adds digits to a number as long as it does not pass a limit. Gives the number and the
digits that are left. -/
def gather (limit : Nat) (n : Nat) : List Char → Nat × List Char
  | [] => (n, [])
  | d :: ds =>
    let next := 10 * n + Digits.ofDigits [d]
    if next ≤ limit then gather limit next ds else (n, d :: ds)

/-- The largest exponent that is read. -/
abbrev largestExponent : Nat := 0x7FFFFFFF

/-! ## Section 2: Scaling -/

/-- The powers of ten up to this one are finite. -/
abbrev largestTen : Nat := 308

/-- The number of a rank divided by a power of ten, by the largest one as often as needed.
After each of these divisions the exponent is smaller, and zero stays what it is. -/
def dividedByTen : Nat → Nat → Nat → Nat
  | 0, r, e => Binary64.divRank r (Binary64.tenRank e)
  | fuel + 1, r, e =>
    if e ≤ largestTen then Binary64.divRank r (Binary64.tenRank e)
    else if r = 0 then 0
    else dividedByTen fuel (Binary64.divRank r (Binary64.tenRank largestTen)) (e - largestTen)

/-- The rank of a number times a power of ten; none if it is out of range. -/
def scaled? (n : Nat) (e : Int) : Option Nat :=
  let r := Binary64.nearest n 1
  if e < 0 then some (dividedByTen (-e).toNat r (-e).toNat)
  else if e ≤ largestTen then
    let r := Binary64.mulRank r (Binary64.tenRank e.toNat)
    if r < Binary64.rankLimit then some r else none
  else if r = 0 then some 0
  else none

/-! ## Section 3: Values -/

namespace NumberText

/-- The digits that 64 bits hold, as a number, and the exponent that goes with it. -/
def significand (t : NumberText) : Nat × Int :=
  let (n, left) := gather maxInt.toNat 0 t.whole
  let fraction := t.fraction.getD []
  let (m, unread) := gather maxInt.toNat n fraction
  (m, (left.length : Int) - ((fraction.length - unread.length : Nat) : Int))

/-- The number as an integer, if it is written as one and 64 bits hold it. -/
def toInt? (t : NumberText) : Option Int :=
  if t.fraction.isSome || t.exponent.isSome then none
  else
    let n : Int := Digits.ofDigits t.whole
    if t.negative then
      if 0 < n && minInt ≤ -n then some (-n) else none
    else
      if n ≤ maxInt then some n else none

/-- The rank of the number without its sign. If it is out of range, the number of digits
at its end that were not looked at. -/
def rank (t : NumberText) : Except Nat Nat :=
  let (n, e) := t.significand
  let (negative, digits) := t.exponent.getD (false, [])
  match gather largestExponent 0 digits with
  | (k, []) =>
    match scaled? n (if negative then e - k else e + k) with
    | some r => .ok r
    | none => .error 0
  | (_, _ :: unread) => if n = 0 || negative then .ok 0 else .error unread.length

/-- The value of the number. If it is out of range, the number of digits at its end that
were not looked at. -/
def value (t : NumberText) : Except Nat Json :=
  match t.toInt? with
  | some n => .ok (.int n)
  | none => t.rank.map fun r => .float (.ofRank t.negative r)

end NumberText

end PropertyFilter.Json
