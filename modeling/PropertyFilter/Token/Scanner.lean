import PropertyFilter.Text.Blank
import PropertyFilter.Token.Basic
import PropertyFilter.Token.Matcher

/-!
  # Scanning by rules

  A scanner cuts a text into pieces from front to back. At every place the first
  rule with a non-empty match decides the next piece:

      cut rules cs
        cs empty                 → done
        firstMatch? = (kind, n)  → a piece of n characters, then cut the rest
        no rule matches          → stop; what is left stays uncut

  Pieces are then placed: each becomes a token whose span is its place in the
  text, stripped of white space when the scanner trims.

  Main statement: nothing is lost, the pieces and what is left uncut concatenate
  to the text (`cut_concat`).
-/

namespace PropertyFilter

/-! ## Section 1: Cutting a text into pieces -/

/-- A stretch cut from a text by a rule of kind `kind`. -/
structure Piece (κ : Type) where
  kind : κ
  chars : List Char
deriving DecidableEq, Repr

/-- The text that a list of pieces covers. -/
def Piece.concat {κ : Type} (ps : List (Piece κ)) : List Char := ps.flatMap Piece.chars

@[simp] theorem Piece.concat_nil {κ : Type} : Piece.concat ([] : List (Piece κ)) = [] := rfl

@[simp] theorem Piece.concat_cons {κ : Type} (p : Piece κ) (ps : List (Piece κ)) :
    Piece.concat (p :: ps) = p.chars ++ Piece.concat ps := rfl

/-- The pieces of a text and what is left from the first place at which no rule
has a non-empty match; nothing is left when the whole text could be cut. -/
def cut {κ : Type} (rules : List (Rule κ)) : List Char → List (Piece κ) × List Char
  | [] => ([], [])
  | c :: cs =>
    match firstMatch? rules (c :: cs) with
    | some (k, n + 1) =>
      let (pieces, rest) := cut rules (cs.drop n)
      (⟨k, c :: cs.take n⟩ :: pieces, rest)
    | _ => ([], c :: cs)
termination_by cs => cs.length
decreasing_by simp only [List.length_drop, List.length_cons]; omega

@[simp] theorem cut_nil {κ : Type} (rules : List (Rule κ)) : cut rules [] = ([], []) := by
  rw [cut]

theorem cut_of_match {κ : Type} {rules : List (Rule κ)} {c : Char} {cs : List Char} {k : κ}
    {n : Nat} (h : firstMatch? rules (c :: cs) = some (k, n + 1)) :
    cut rules (c :: cs) =
      (⟨k, c :: cs.take n⟩ :: (cut rules (cs.drop n)).1, (cut rules (cs.drop n)).2) := by
  rw [cut, h]

theorem cut_of_none {κ : Type} {rules : List (Rule κ)} {cs : List Char}
    (h : firstMatch? rules cs = none) : cut rules cs = ([], cs) := by
  cases cs with
  | nil => simp
  | cons c cs => rw [cut, h]

/-- Nothing is lost and nothing is made up. -/
theorem cut_concat {κ : Type} (rules : List (Rule κ)) (cs : List Char) :
    Piece.concat (cut rules cs).1 ++ (cut rules cs).2 = cs := by
  fun_induction cut rules cs with
  | case1 => rfl
  | case2 c cs k n h pieces rest hcut ih =>
    rw [hcut] at ih
    simp only [Piece.concat_cons, List.cons_append, List.append_assoc]
    rw [ih, List.take_append_drop]
  | case3 => rfl

/-! ## Section 2: Placing pieces -/

/-- The token of a piece that begins at byte `offset`. -/
def Piece.toToken {κ : Type} (trims : Bool) (offset : Nat) (p : Piece κ) : Token κ :=
  if trims then
    let text := Text.trim p.chars
    let start := offset + Text.byteLength (Text.leadingBlanks p.chars)
    ⟨p.kind, String.ofList text, Span.covering start text⟩
  else
    ⟨p.kind, String.ofList p.chars, Span.covering offset p.chars⟩

@[simp] theorem Piece.toToken_kind {κ : Type} (trims : Bool) (offset : Nat) (p : Piece κ) :
    (p.toToken trims offset).kind = p.kind := by
  cases trims <;> rfl

/-- The tokens of consecutive pieces, the first of which begins at byte `offset`. -/
def placed {κ : Type} (trims : Bool) (offset : Nat) : List (Piece κ) → List (Token κ)
  | [] => []
  | p :: ps => p.toToken trims offset :: placed trims (offset + Text.byteLength p.chars) ps

/-! ## Section 3: Scanners -/

/-- Rules in their order, and whether tokens are stripped of white space. -/
structure Scanner (κ : Type) where
  rules : List (Rule κ) := []
  trims : Bool := false

namespace Scanner

/-- The scanner with one more rule, to be asked after all others. -/
def addRule {κ : Type} (s : Scanner κ) (r : Rule κ) : Scanner κ :=
  { s with rules := s.rules ++ [r] }

/-- The tokens of a text, or the place at which the rules run out. -/
def scan {κ : Type} (s : Scanner κ) (text : String) : Except ScanError (List (Token κ)) :=
  let (pieces, rest) := cut s.rules text.toList
  if rest.isEmpty then
    .ok (placed s.trims 0 pieces)
  else
    .error ⟨Text.byteLength (Piece.concat pieces), String.ofList rest⟩

end Scanner

end PropertyFilter
