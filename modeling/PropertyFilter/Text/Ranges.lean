/-!
  # Character classes

  A class of characters that has no short rule is a list of ranges of code points,
  in ascending order and with gaps between them. The tables of this folder are
  Unicode properties, each named for its property.
-/

namespace PropertyFilter.Text

/-- Is the character in one of the ranges? Both ends of a range belong to it. -/
def inRanges (ranges : List (Nat × Nat)) (c : Char) : Bool :=
  ranges.any fun (first, last) => first ≤ c.toNat && c.toNat ≤ last

end PropertyFilter.Text
