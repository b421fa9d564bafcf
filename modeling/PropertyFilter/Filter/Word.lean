import PropertyFilter.Number.Digits
import PropertyFilter.Token.Scanner

/-!
  # The words of a simple filter

  A simple filter such as `>=10`, `~'*word*'` or `!in(5,12,3)` is a sequence of
  operators, brackets, commas, numbers and texts in single quotes, with no white
  space between them. Order matters in the rule table: `>=` and `<=` come before
  `>` and `<`.
-/

namespace PropertyFilter

/-! ## Section 1: Kinds of words -/

/-- What a word of a simple filter stands for. -/
inductive FilterWord
  /-- `)` -/
  | closeBracket
  /-- `,` -/
  | comma
  /-- `=` -/
  | equalTo
  /-- `>` -/
  | greaterThan
  /-- `>=` -/
  | greaterOrEqual
  /-- `in` -/
  | inList
  /-- `<` -/
  | lessThan
  /-- `<=` -/
  | lessOrEqual
  /-- `~` -/
  | like
  /-- `!` -/
  | negation
  /-- digits with an optional fraction -/
  | number
  /-- `(` -/
  | openBracket
  /-- a text in single quotes -/
  | quoted
deriving DecidableEq, Repr

namespace FilterWord

/-- The SQL spelling of a simple operator; other words have none. -/
def sqlOperator? : FilterWord → Option String
  | equalTo => some "="
  | greaterThan => some ">"
  | greaterOrEqual => some ">="
  | lessThan => some "<"
  | lessOrEqual => some "<="
  | negation => some "!"
  | _ => none

/-- Numbers and quoted texts are the operands of a filter. -/
def isValue : FilterWord → Bool
  | number | quoted => true
  | _ => false

end FilterWord

/-- A word of a simple filter in its place. -/
abbrev FilterToken := Token FilterWord

/-! ## Section 2: The rule table -/

namespace Matcher

/-- Digits with an optional point and further digits. A point that no digit
follows is not taken. -/
def number : Matcher :=
  (many1 Digits.isDigit).followedBy ((word ".").followedBy (many1 Digits.isDigit)).orNothing

/-- A text in single quotes, possibly empty. -/
def quoted : Matcher :=
  ((word "'").followedBy (many (· ≠ '\''))).followedBy (word "'")

end Matcher

/-- The words of a simple filter, in the order in which they are tried. -/
def filterRules : List (Rule FilterWord) :=
  [ ⟨.word ")", .closeBracket⟩
  , ⟨.word ",", .comma⟩
  , ⟨.word "=", .equalTo⟩
  , ⟨.word ">=", .greaterOrEqual⟩
  , ⟨.word ">", .greaterThan⟩
  , ⟨.word "<=", .lessOrEqual⟩
  , ⟨.word "<", .lessThan⟩
  , ⟨.word "in", .inList⟩
  , ⟨.word "~", .like⟩
  , ⟨.word "!", .negation⟩
  , ⟨.quoted, .quoted⟩
  , ⟨.number, .number⟩
  , ⟨.word "(", .openBracket⟩ ]

/-- Cuts a simple filter into its words. White space is no part of one. -/
def filterScanner : Scanner FilterWord := ⟨filterRules, false⟩

/-- The tokens of a simple filter. -/
def filterTokens (value : String) : Except ScanError (List FilterToken) :=
  filterScanner.scan value

end PropertyFilter
