import PropertyFilter.Condition.Param
import PropertyFilter.Filter.Connective

/-!
  # Conditions

  A condition is an SQL expression with `?` placeholders and the values bound to
  them, in order. The empty expression stands for the condition that always holds.
-/

namespace PropertyFilter

/-- An SQL expression and the values of its placeholders. -/
structure Condition where
  expression : String := ""
  params : List Param := []
deriving DecidableEq

namespace Condition

/-- The condition that always holds. -/
def always : Condition := {}

/-- A condition without an expression. -/
def isEmpty (c : Condition) : Bool := c.expression.isEmpty

/-- The number of placeholders in the expression. -/
def placeholderCount (c : Condition) : Nat := c.expression.toList.count '?'

/-- Two conditions joined by a connective; their values follow each other. -/
def join (left : Condition) (c : Connective) (right : Condition) : Condition :=
  ⟨left.expression ++ c.spaced ++ right.expression, left.params ++ right.params⟩

/-- The expression, and behind it the values if there are any. -/
def display (c : Condition) : String :=
  if c.params.isEmpty then c.expression
  else c.expression ++ " [" ++ ", ".intercalate (c.params.map Param.display) ++ "]"

end Condition

end PropertyFilter
