import PropertyFilter.Token.Scanner

/-!
  # Stars in a text

  A star in a quoted text stands for any run of characters. A text is split into
  its stars and the runs between them, from which the patterns of SQL's `like`
  are made, where `%` stands for any run.

  The two uses differ at the ends: `wildcardPattern` keeps every star, while
  `containsPattern` puts `%` at both ends and drops a star that is first or last.
-/

namespace PropertyFilter

/-- A star or a run of other characters. -/
inductive StarWord
  | star
  | run
deriving DecidableEq, Repr

/-- A star or a run in its place. -/
abbrev StarToken := Token StarWord

/-- The two rules cover every text. -/
def starRules : List (Rule StarWord) :=
  [ ⟨.word "*", .star⟩
  , ⟨.many1 (· ≠ '*'), .run⟩ ]

/-- Cuts a text into its stars and runs. -/
def starScanner : Scanner StarWord := ⟨starRules, false⟩

/-- The stars and runs of a text; a text that cannot be cut is one run. -/
def starTokens (text : String) : List StarToken :=
  match starScanner.scan text with
  | .ok tokens => tokens
  | .error _ => [⟨.run, text, Span.covering 0 text.toList⟩]

/-! ## Section 1: Patterns -/

/-- The part of a `like` pattern that a star or a run becomes. -/
def StarToken.pattern (t : StarToken) : String :=
  match t.kind with
  | .star => "%"
  | .run => t.text

/-- The pattern that matches what the text says, every star a `%`. -/
def wildcardPattern (tokens : List StarToken) : String :=
  String.join (tokens.map StarToken.pattern)

/-- The tokens without a star that is the first or the last of them. -/
def withoutOuterStars (tokens : List StarToken) : List StarToken :=
  let isStar (t : StarToken) : Bool := t.kind == .star
  let inner := match tokens with
    | t :: rest => if isStar t then rest else tokens
    | [] => []
  match inner.getLast? with
  | some t => if isStar t then inner.dropLast else inner
  | none => []

/-- The pattern that matches any text in which the given one occurs. -/
def containsPattern (tokens : List StarToken) : String :=
  "%" ++ wildcardPattern (withoutOuterStars tokens) ++ "%"

end PropertyFilter
