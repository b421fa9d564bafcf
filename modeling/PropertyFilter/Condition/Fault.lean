/-!
  # Why a filter is refused

  A filter whose words cannot be cut is no fault: it is taken as a literal. The
  faults here are of filters that have words in a wrong order, or of keys.
-/

namespace PropertyFilter

/-- Why a filter cannot be converted. -/
inductive Fault
  /-- The key stands for several properties at once. -/
  | severalProperties
  /-- The key names no property. -/
  | invalidKey
  /-- The words of the filter do not form an expression. -/
  | invalidExpression (filter : String)
  /-- A comparison is negated. -/
  | forbiddenAfterNot (operator : String)
  /-- A search is negated. -/
  | notBeforeLike
  /-- A comparison has something else than a value behind it. -/
  | invalidOperand
  /-- A search has something else than a value behind it. -/
  | invalidLikeOperand
deriving DecidableEq, Repr

/-- The wording of a fault. -/
def Fault.message : Fault → String
  | severalProperties => "Complex filters are currently not implemented !"
  | invalidKey => "Invalid filter key type !"
  | invalidExpression filter => "Invalid filter expression '" ++ filter ++ "' !"
  | forbiddenAfterNot operator =>
    "Using the '!' operator before the '" ++ operator ++ "' operator is forbidden !"
  | notBeforeLike =>
    "Using the '!' operator before the '~' is currently not supported, please used the '!' " ++
      "operator with a string having '*' characters instead !"
  | invalidOperand => "Invalid use of operator !"
  | invalidLikeOperand => "Invalid use of '~' operator !"

end PropertyFilter
