import PropertyFilter.Text.Blank
import PropertyFilter.Text.WordCharacter

/-!
  # Classes of characters

  A class is a list of ranges of code points in ascending order, with a gap before
  each range but the first. So a class has one form only: it is empty if it has no
  range, and two classes with the same characters are equal.

      union a b         the ranges of both, put in order and joined where they touch
      complement a      the gaps
      a ∩ b, a ∖ b      by complements

  Code points that are no characters (0xD800 to 0xDFFF) belong to no complement.
-/

namespace PropertyFilter

/-- A class of characters. -/
structure CharClass where
  ranges : List (Nat × Nat)
deriving DecidableEq, Repr

namespace CharClass

/-- Does the class have the character? -/
def has (k : CharClass) (c : Char) : Bool := Text.inRanges k.ranges c

/-! ## Section 1: Ranges in order -/

/-- A range put in front of ranges in order, none of which begins before it. It takes
in the ranges that it touches. -/
def joinRange (first last : Nat) : List (Nat × Nat) → List (Nat × Nat)
  | [] => [(first, last)]
  | (a, b) :: rest =>
    if a ≤ last + 1 then joinRange first (max last b) rest else (first, last) :: (a, b) :: rest

/-- The class of some ranges, given in any order. -/
def ofRanges (ranges : List (Nat × Nat)) : CharClass :=
  ⟨(ranges.mergeSort fun r s => decide (r.1 ≤ s.1)).foldr (fun r rest => joinRange r.1 r.2 rest) []⟩

/-- The largest code point. -/
def topCode : Nat := 0x10FFFF

/-- The gaps between ranges in order, from a code point on. -/
def gapsFrom (code : Nat) : List (Nat × Nat) → List (Nat × Nat)
  | [] => if code ≤ topCode then [(code, topCode)] else []
  | (a, b) :: rest => if code < a then (code, a - 1) :: gapsFrom (b + 1) rest else gapsFrom (b + 1) rest

/-! ## Section 2: Operations -/

/-- The class of one character. -/
def single (c : Char) : CharClass := ⟨[(c.toNat, c.toNat)]⟩

/-- The class of the characters from one to another. -/
def between (first last : Char) : CharClass := ⟨[(first.toNat, last.toNat)]⟩

/-- The class without characters. -/
def empty : CharClass := ⟨[]⟩

/-- The characters of either class. -/
def union (k l : CharClass) : CharClass := ofRanges (k.ranges ++ l.ranges)

/-- All other characters. -/
def complement (k : CharClass) : CharClass :=
  ⟨gapsFrom 0 (ofRanges ((0xD800, 0xDFFF) :: k.ranges)).ranges⟩

/-- The characters of both classes. -/
def inter (k l : CharClass) : CharClass := (k.complement.union l.complement).complement

/-- The characters of the first class that the second one does not have. -/
def diff (k l : CharClass) : CharClass := k.inter l.complement

/-- The characters of exactly one of two classes. -/
def symmDiff (k l : CharClass) : CharClass := (k.diff l).union (l.diff k)

/-- The only character of a class, if it has just one. -/
def single? (k : CharClass) : Option Char :=
  match k.ranges with
  | [(a, b)] => if a = b then some (Char.ofNat a) else none
  | _ => none

/-- Has the class ASCII characters only? -/
def isAscii (k : CharClass) : Bool := k.ranges.all fun (_, b) => b < 0x80

@[simp] theorem has_empty (c : Char) : empty.has c = false := rfl

@[simp] theorem has_single (c d : Char) : (single c).has d = (c == d) := by
  rw [Bool.eq_iff_iff]
  simp only [has, single, Text.inRanges, List.any_cons, List.any_nil, Bool.or_false,
    Bool.and_eq_true, decide_eq_true_eq, beq_iff_eq]
  exact ⟨fun ⟨h₁, h₂⟩ => Char.toNat_inj.1 (by omega), fun h => by subst h; omega⟩

/-! ## Section 3: Classes with a name -/

/-- The decimal digits of all scripts. -/
def digit : CharClass := ⟨Text.decimalDigitRanges⟩

/-- White space. -/
def blank : CharClass :=
  ⟨[(0x9, 0xD), (0x20, 0x20), (0x85, 0x85), (0xA0, 0xA0), (0x1680, 0x1680), (0x2000, 0x200A),
    (0x2028, 0x2029), (0x202F, 0x202F), (0x205F, 0x205F), (0x3000, 0x3000)]⟩

/-- The characters of words. -/
def word : CharClass := ofRanges Text.wordRanges

/-- All characters but the line feed. -/
def anyOnLine : CharClass := (single '\n').complement

/-- White space is the same within patterns and where texts are trimmed. -/
theorem has_blank (c : Char) : blank.has c = Text.isBlank c := by
  rw [Bool.eq_iff_iff]
  simp only [has, blank, Text.inRanges, Text.isBlank, List.any_cons, List.any_nil, Bool.or_false,
    Bool.or_eq_true, Bool.and_eq_true, decide_eq_true_eq, beq_iff_eq]
  omega

/-- The ASCII characters with a property that has a name of its own. -/
def ofName? : String → Option CharClass
  | "alnum" => some (ofRanges [(0x30, 0x39), (0x41, 0x5A), (0x61, 0x7A)])
  | "alpha" => some (ofRanges [(0x41, 0x5A), (0x61, 0x7A)])
  | "ascii" => some (ofRanges [(0, 0x7F)])
  | "blank" => some (ofRanges [(0x9, 0x9), (0x20, 0x20)])
  | "cntrl" => some (ofRanges [(0, 0x1F), (0x7F, 0x7F)])
  | "digit" => some (ofRanges [(0x30, 0x39)])
  | "graph" => some (ofRanges [(0x21, 0x7E)])
  | "lower" => some (ofRanges [(0x61, 0x7A)])
  | "print" => some (ofRanges [(0x20, 0x7E)])
  | "punct" => some (ofRanges [(0x21, 0x2F), (0x3A, 0x40), (0x5B, 0x60), (0x7B, 0x7E)])
  | "space" => some (ofRanges [(0x9, 0xD), (0x20, 0x20)])
  | "upper" => some (ofRanges [(0x41, 0x5A)])
  | "word" => some (ofRanges [(0x30, 0x39), (0x41, 0x5A), (0x5F, 0x5F), (0x61, 0x7A)])
  | "xdigit" => some (ofRanges [(0x30, 0x39), (0x41, 0x46), (0x61, 0x66)])
  | _ => none

end CharClass

end PropertyFilter
