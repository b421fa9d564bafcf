import PropertyFilter.Filter.Word

/-!
  # Splitting at a connective

  A compound filter joins two simple ones by `+` (AND) or `-` (OR). A text in
  single quotes is cut as one piece, with the operator in front of it if there is
  one, so that a sign inside quotes is never read as a connective.

  A filter is compound only if it falls into exactly three tokens with a
  connective in the middle (`Compound.ofTokens?`).
-/

namespace PropertyFilter

/-- How two conditions are joined. -/
inductive Connective
  | and
  | or
deriving DecidableEq, Repr

/-- The SQL word of a connective. -/
def Connective.word : Connective → String
  | and => "AND"
  | or => "OR"

/-- The SQL word of a connective with a space on either side. -/
def Connective.spaced (c : Connective) : String := " " ++ c.word ++ " "

/-- What a token of a compound filter stands for. -/
inductive SplitWord
  /-- `+` or `-` -/
  | connective (c : Connective)
  /-- digits and points -/
  | number
  /-- anything else: an operand or a part of one -/
  | operand
deriving DecidableEq, Repr

/-- A part of a compound filter in its place. -/
abbrev SplitToken := Token SplitWord

namespace Matcher

/-- A text in single quotes that holds at least one character. -/
def quotedText : Matcher :=
  ((word "'").followedBy (many1 (· ≠ '\''))).followedBy (word "'")

/-- Characters up to the next quote or connective. -/
def plainRun : Matcher := many1 fun c => c ≠ '\'' && c ≠ '+' && c ≠ '-'

end Matcher

/-- The parts of a compound filter, in the order in which they are tried. -/
def splitRules : List (Rule SplitWord) :=
  [ ⟨.word "+", .connective .and⟩
  , ⟨.word "-", .connective .or⟩
  , ⟨.many1 fun c => Digits.isDigit c || c == '.', .number⟩
  , ⟨.quotedText, .operand⟩
  , ⟨(Matcher.word "~").followedBy .quotedText, .operand⟩
  , ⟨(Matcher.word "=").followedBy .quotedText, .operand⟩
  , ⟨(Matcher.word "<").followedBy .quotedText, .operand⟩
  , ⟨(Matcher.word "<=").followedBy .quotedText, .operand⟩
  , ⟨(Matcher.word ">").followedBy .quotedText, .operand⟩
  , ⟨(Matcher.word ">=").followedBy .quotedText, .operand⟩
  , ⟨(Matcher.word "!").followedBy .quotedText, .operand⟩
  , ⟨.plainRun, .operand⟩ ]

/-- Cuts a filter at its connectives and strips white space from the parts. -/
def splitScanner : Scanner SplitWord := ⟨splitRules, true⟩

/-- The parts of a filter and its connectives. -/
def splitTokens (value : String) : Except ScanError (List SplitToken) :=
  splitScanner.scan value

/-- Two operands and what joins them. -/
structure Compound where
  left : String
  connective : Connective
  right : String
deriving DecidableEq, Repr

/-- Three tokens with a connective in the middle are a compound filter; the outer
two may be of any kind. -/
def Compound.ofTokens? : List SplitToken → Option Compound
  | [l, ⟨.connective c, _, _⟩, r] => some ⟨l.text, c, r.text⟩
  | _ => none

theorem Compound.ofTokens?_eq_some_iff {tokens : List SplitToken} {filter : Compound} :
    Compound.ofTokens? tokens = some filter ↔
      ∃ l op r, tokens = [l, op, r] ∧ op.kind = .connective filter.connective ∧
        l.text = filter.left ∧ r.text = filter.right := by
  constructor
  · intro h
    unfold Compound.ofTokens? at h
    split at h
    · next l c text span r =>
      obtain rfl := Option.some.inj h
      exact ⟨l, ⟨.connective c, text, span⟩, r, rfl, rfl, rfl, rfl⟩
    · cases h
  · rintro ⟨l, ⟨kind, text, span⟩, r, rfl, hop, hl, hr⟩
    obtain rfl : kind = .connective filter.connective := hop
    show some (⟨l.text, filter.connective, r.text⟩ : Compound) = some filter
    rw [hl, hr]

end PropertyFilter
