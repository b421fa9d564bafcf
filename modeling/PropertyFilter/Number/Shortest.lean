import PropertyFilter.Number.Decimal

/-!
  # The shortest decimal of a number

  Of all decimal fractions that are nearer to a number than to any other of its
  format, the shortest are those with the fewest digits, and of these the nearest
  is taken. On the grid of a digit count only the two neighbours of the number can
  be the nearest, so it is enough to try these.

  All comparisons are exact, on natural numbers.
-/

namespace PropertyFilter.Shortest

/-- Which of two equally near decimals is taken. -/
inductive Tie
  /-- the one with an even last digit -/
  | even
  /-- the larger one -/
  | up
deriving DecidableEq, Repr

/-- Compares `d` with `n` units of `2^-1075`. -/
def compareUnits (d : Decimal) (n : Nat) : Ordering :=
  compare (d.digits * Nat.pow 10 d.exponent.toNat * Nat.pow 2 1075)
    (n * Nat.pow 10 (-d.exponent).toNat)

/-- A decimal reads back as the number of rank `r` when it lies between the two
points halfway to its neighbours; the points themselves belong to an even rank. -/
def readsBack (r : Nat) (d : Decimal) : Bool :=
  let below := compareUnits d (Binary64.units (r - 1) + Binary64.units r)
  let above := compareUnits d (Binary64.units r + Binary64.units (r + 1))
  let closed := r % 2 = 0
  (below = .gt || (closed && below = .eq)) && (above = .lt || (closed && above = .eq))

/-- The number `e` for which the leading digit of rank `r > 0` stands right behind
the point of `0.ddd * 10^e`. -/
def scale (r : Nat) : Int :=
  ((Digits.toDigits (Binary64.units r * Nat.pow 10 400 / Nat.pow 2 1074)).length : Int) - 400

/-- The last multiple of `10^g` that does not exceed the number of rank `r`. -/
def gridFloor (r : Nat) (g : Int) : Nat :=
  Binary64.units r * Nat.pow 10 (-g).toNat / (Nat.pow 2 1074 * Nat.pow 10 g.toNat)

/-- Of the neighbours `n * 10^g` and `(n + 1) * 10^g` of a number the one that reads back;
if both do, the nearer one, which the point halfway between them decides: `halfway`
compares it with the number. -/
def nearer? (tie : Tie) (n : Nat) (g : Int) (low high : Bool) (halfway : Ordering) :
    Option Decimal :=
  match low, high with
  | true, true =>
    match halfway with
    | .gt => some ⟨n, g⟩
    | .lt => some ⟨n + 1, g⟩
    | .eq => if tie = .up || n % 2 = 1 then some ⟨n + 1, g⟩ else some ⟨n, g⟩
  | true, false => some ⟨n, g⟩
  | false, true => some ⟨n + 1, g⟩
  | false, false => none

/-- The better of the two neighbours of the number of rank `r` on the grid `10^g`,
if one of them reads back. -/
def onGrid? (tie : Tie) (r : Nat) (g : Int) : Option Decimal :=
  let n := gridFloor r g
  nearer? tie n g (readsBack r ⟨n, g⟩) (readsBack r ⟨n + 1, g⟩)
    (compareUnits ⟨2 * n + 1, g⟩ (4 * Binary64.units r))

/-- Moves the zeros at the end of the digits into the exponent. -/
def stripZeros (d : Decimal) : Decimal :=
  let zeros := ((Digits.toDigits d.digits).reverse.takeWhile (· = '0')).length
  ⟨d.digits / Nat.pow 10 zeros, d.exponent + zeros⟩

/-- The exact value of the number of rank `r`. -/
def exact (r : Nat) : Decimal := ⟨Binary64.units r * Nat.pow 5 1074, -1074⟩

/-- The shortest decimal of the number of rank `r > 0`. Seventeen digits always
identify a number, so that the exact value is not needed. -/
def ofRank (tie : Tie) (r : Nat) : Decimal :=
  let e := scale r
  let found := (List.range 17).findSome? fun (n : Nat) => onGrid? tie r (e - (n + 1))
  stripZeros (found.getD (exact r))

end PropertyFilter.Shortest
