/-!
  # Digits

  Natural numbers and the runs of digits that denote them. Writing a number and
  reading it back gives the number (`ofDigits_toDigits`); reading ignores leading
  zeros. Digits are decimal unless the name says otherwise.
-/

namespace PropertyFilter.Digits

/-- A digit of the decimal notation. -/
def isDigit (c : Char) : Bool := '0' ≤ c && c ≤ '9'

/-- The digits of a number, without leading zeros. -/
def toDigits (n : Nat) : List Char := Nat.toDigits 10 n

/-- The number that a run of digits denotes. -/
def ofDigits (cs : List Char) : Nat := Nat.ofDigitChars 10 cs 0

/-- A run of digits, and of nothing else, that is not empty. -/
def isRun (cs : List Char) : Bool := !cs.isEmpty && cs.all isDigit

@[simp] theorem ofDigits_toDigits (n : Nat) : ofDigits (toDigits n) = n :=
  Nat.ofDigitChars_toDigits (by decide) (by decide)

/-- The digits of a number, with zeros in front up to the given width. -/
def padded (width n : Nat) : List Char :=
  let ds := toDigits n
  List.replicate (width - ds.length) '0' ++ ds

/-- The digits of a number with its sign in front if it is negative. -/
def ofInt (n : Int) : String :=
  (if n < 0 then "-" else "") ++ String.ofList (toDigits n.natAbs)

/-- The value of a hexadecimal digit. -/
def hexValue? (c : Char) : Option Nat :=
  if '0' ≤ c && c ≤ '9' then some (c.toNat - '0'.toNat)
  else if 'a' ≤ c && c ≤ 'f' then some (c.toNat - 'a'.toNat + 10)
  else if 'A' ≤ c && c ≤ 'F' then some (c.toNat - 'A'.toNat + 10)
  else none

/-- The number that a run of hexadecimal digits denotes. -/
def ofHexDigits? (cs : List Char) : Option Nat :=
  cs.foldlM (fun n c => (hexValue? c).map (16 * n + ·)) 0

end PropertyFilter.Digits
