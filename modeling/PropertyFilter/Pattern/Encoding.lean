import PropertyFilter.Pattern.CharClass

/-!
  # Classes in UTF-8

  The characters of a class, as bytes: a class is a list of sequences of byte ranges,
  in ascending order, each of which stands for all texts that take one byte of each
  range. `[é-ü]`, for instance, is one sequence of two ranges, C3 and A9 to BC.
-/

namespace PropertyFilter.CharClass

/-- Ranges of bytes one behind the other. -/
abbrev ByteRanges := List (Nat × Nat)

/-- The sequences for the codes from `low` to `high`, written as a leading byte, which has
`lead` added to it, and `more` bytes of six bits each. -/
def spread (lead : Nat) : Nat → Nat → Nat → List ByteRanges
  | 0, low, high => [[(lead + low, lead + high)]]
  | more + 1, low, high =>
    let unit := Nat.pow 64 (more + 1)
    let within (d low high : Nat) : List ByteRanges :=
      (spread 0x80 more low high).map ((lead + d, lead + d) :: ·)
    let first := low / unit
    let last := high / unit
    if first = last then within first (low % unit) (high % unit)
    else
      let cutFirst := low % unit ≠ 0
      let cutLast := high % unit ≠ unit - 1
      let fullFirst := if cutFirst then first + 1 else first
      let fullLast := if cutLast then last - 1 else last
      (if cutFirst then within first (low % unit) (unit - 1) else []) ++
        (if fullFirst ≤ fullLast then
          [(lead + fullFirst, lead + fullLast) :: List.replicate (more + 1) (0x80, 0xBF)] else []) ++
        (if cutLast then within last 0 (high % unit) else [])

/-- The blocks of codes that are written with the same number of bytes: what is added to the
leading byte, the number of bytes behind it, the first code and the last. -/
def blocks : List (Nat × Nat × Nat × Nat) :=
  [(0, 0, 0, 0x7F), (0xC0, 1, 0x80, 0x7FF), (0xE0, 2, 0x800, 0xD7FF), (0xE0, 2, 0xE000, 0xFFFF),
    (0xF0, 3, 0x10000, topCode)]

/-- The sequences of a class. -/
def byteRanges (k : CharClass) : List ByteRanges :=
  k.ranges.flatMap fun (a, b) =>
    blocks.flatMap fun (lead, more, first, last) =>
      if max a first ≤ min b last then spread lead more (max a first) (min b last) else []

end PropertyFilter.CharClass
