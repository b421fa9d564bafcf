/-!
  # Double precision numbers

  A finite number of the binary64 format is a sign and a *rank*: its place, from
  zero upwards, in the increasing list of the format's non-negative numbers.
  The number of rank `r` is `units r` times the smallest positive one, `2^-1074`.
  The rank of a number is at the same time what its 63 low bits hold.

  Rounding a fraction to the format (`nearest`) finds the largest rank that does
  not exceed it and chooses between that one and the next: the nearer, and of two
  equally near ones the one of even rank.
-/

namespace PropertyFilter

namespace Binary64

/-! ## Section 1: Ranks -/

/-- One more than the rank of the largest finite number. -/
abbrev rankLimit : Nat := 0x7FF0000000000000

/-- The number of rank `r`, counted in units of `2^-1074`. Ranks below `2^52` are
one unit apart; from there on the distance doubles every `2^52` ranks. -/
def units (r : Nat) : Nat :=
  if r < Nat.pow 2 52 then r
  else (Nat.pow 2 52 + r % Nat.pow 2 52) * Nat.pow 2 (r / Nat.pow 2 52 - 1)

/-- The largest rank whose number does not exceed `u` units. -/
def floorRank (u : Nat) : Nat :=
  if u < Nat.pow 2 53 then u
  else
    let e := u.log2 - 52
    e * Nat.pow 2 52 + u / Nat.pow 2 e

/-- The rank nearest to the fraction `num / den`; of two equally near ranks the
even one. From `rankLimit` on the fraction is out of range. -/
def nearest (num den : Nat) : Nat :=
  let scaled := num * Nat.pow 2 1074
  let r := floorRank (scaled / den)
  match compare (2 * scaled) ((units r + units (r + 1)) * den) with
  | .lt => r
  | .gt => r + 1
  | .eq => if r % 2 = 0 then r else r + 1

/-- The rank nearest to the product of the numbers of two ranks. -/
def mulRank (r s : Nat) : Nat := nearest (units r * units s) (Nat.pow 2 2148)

/-- The rank nearest to the quotient of the numbers of two ranks, the second not zero. -/
def divRank (r s : Nat) : Nat := nearest (units r) (units s)

/-- The rank nearest to a power of ten. -/
def tenRank (exponent : Nat) : Nat := nearest (Nat.pow 10 exponent) 1

end Binary64

/-! ## Section 2: Numbers -/

/-- A number of the binary64 format. There is a single not-a-number. -/
inductive Binary64
  | finite (negative : Bool) (rank : Fin Binary64.rankLimit)
  | infinite (negative : Bool)
  | nan
deriving DecidableEq

namespace Binary64

/-- The number whose magnitude has the given rank, infinite if that is out of
range. -/
def ofRank (negative : Bool) (rank : Nat) : Binary64 :=
  if h : rank < rankLimit then .finite negative ⟨rank, h⟩ else .infinite negative

/-- The number nearest to a fraction, with a sign. -/
def ofFraction (negative : Bool) (num den : Nat) : Binary64 :=
  ofRank negative (nearest num den)

/-- The number nearest to an integer. -/
def ofInt (n : Int) : Binary64 := ofFraction (n < 0) n.natAbs 1

/-- Neither infinite nor not-a-number. -/
def isFinite : Binary64 → Bool
  | .finite .. => true
  | _ => false

/-- The number that 64 bits stand for. -/
def ofBits (bits : UInt64) : Binary64 :=
  let negative := Nat.pow 2 63 ≤ bits.toNat
  let rank := bits.toNat % Nat.pow 2 63
  if rank ≤ rankLimit then ofRank negative rank else .nan

/-- The 64 bits of a number; of not-a-number the quiet one without a payload. -/
def toBits : Binary64 → UInt64
  | .finite negative rank => UInt64.ofNat ((if negative then Nat.pow 2 63 else 0) + rank.val)
  | .infinite negative => UInt64.ofNat ((if negative then Nat.pow 2 63 else 0) + rankLimit)
  | .nan => UInt64.ofNat (rankLimit + Nat.pow 2 51)

end Binary64

end PropertyFilter
