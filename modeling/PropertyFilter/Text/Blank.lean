/-!
  # Blank characters

  White space is the Unicode property `White_Space`: 25 characters, among them
  the no-break space and the ideographic space, but not the zero-width ones.
  Texts are trimmed by this property, on the list of their characters.

  Main statements: a trimmed text neither starts nor ends with a blank
  (`trimStart_head`, `trim_eq_self`), and a text of blanks alone trims to nothing
  (`trim_eq_nil`).
-/

namespace PropertyFilter.Text

/-! ## Section 1: The property -/

/-- White space in the sense of the Unicode property `White_Space`. -/
def isBlank (c : Char) : Bool :=
  let n := c.toNat
  (0x9 ≤ n && n ≤ 0xD) || n == 0x20 || n == 0x85 || n == 0xA0 || n == 0x1680 ||
    (0x2000 ≤ n && n ≤ 0x200A) || n == 0x2028 || n == 0x2029 || n == 0x202F ||
    n == 0x205F || n == 0x3000

/-- A text that is empty or holds nothing but white space. -/
def isBlankText (cs : List Char) : Bool := cs.all isBlank

/-! ## Section 2: Trimming -/

/-- The text without its leading white space. -/
def trimStart (cs : List Char) : List Char := cs.dropWhile isBlank

/-- The text without its trailing white space. -/
def trimEnd (cs : List Char) : List Char := (cs.reverse.dropWhile isBlank).reverse

/-- The text without white space at either end. -/
def trim (cs : List Char) : List Char := trimEnd (trimStart cs)

/-- What trimming at the start takes away. -/
def leadingBlanks (cs : List Char) : List Char := cs.takeWhile isBlank

@[simp] theorem trim_nil : trim [] = [] := rfl

theorem leadingBlanks_append_trimStart (cs : List Char) :
    leadingBlanks cs ++ trimStart cs = cs :=
  List.takeWhile_append_dropWhile

theorem trimStart_head {cs rest : List Char} {c : Char} (h : trimStart cs = c :: rest) :
    isBlank c = false := by
  induction cs with
  | nil => simp [trimStart] at h
  | cons d ds ih =>
    by_cases hd : isBlank d
    · exact ih (by simpa [trimStart, List.dropWhile_cons, hd] using h)
    · simp only [trimStart, List.dropWhile_cons, hd] at h
      cases h
      simpa using hd

theorem trim_eq_nil {cs : List Char} (h : isBlankText cs = true) : trim cs = [] := by
  have : trimStart cs = [] := by
    induction cs with
    | nil => rfl
    | cons d ds ih =>
      simp only [isBlankText, List.all_cons, Bool.and_eq_true] at h
      simpa [trimStart, List.dropWhile_cons, h.1] using ih h.2
  simp [trim, this, trimEnd]

/-- A text whose first and last characters are no blanks is its own trimmed form. -/
theorem trim_eq_self {c d : Char} {mid : List Char} (hc : isBlank c = false)
    (hd : isBlank d = false) : trim (c :: (mid ++ [d])) = c :: (mid ++ [d]) := by
  simp [trim, trimStart, trimEnd, hc, hd]

end PropertyFilter.Text
