import PropertyFilter.Condition.Basic
import PropertyFilter.Condition.Fault
import PropertyFilter.Filter.Star
import PropertyFilter.Filter.Word

/-!
  # Predicates from words

  The words of a simple filter say one predicate about the property named by a
  key. The first word decides:

      =            key = ?   or   key like ?   for a text with stars
      > >= < <=    key OP ?                    never behind `!`
      ~            key like ?  or  cast(key as varchar(32)) like ?
      in           key in(?,?,...)
      number       key = ?
      ! value      key = !?
      ! words      the predicate of the words, negated

  A negated predicate is made of the key, a `!` unless the predicate behind it
  says `not` itself, and that predicate, from which the operators `=` and `in`
  leave out the key. A fault always names the whole filter.
-/

namespace PropertyFilter

/-- A text without the single quotes around it; a text that is not quoted on both
sides is left alone. -/
def unquote (text : String) : String :=
  match text.toList with
  | '\'' :: rest =>
    if rest.getLast? = some '\'' then String.ofList rest.dropLast else text
  | _ => text

namespace Predicate

/-! ## Section 1: Operands -/

/-- The value of a number. -/
def numberParam (filter : String) (t : FilterToken) : Except Fault Param :=
  match Param.ofNumber? t.text with
  | some p => .ok p
  | none => .error (.invalidExpression filter)

/-- The value of a number or of a quoted text, taken as it is; any other word
raises `fault`. -/
def operandParam (filter : String) (fault : Fault) (t : FilterToken) : Except Fault Param :=
  match t.kind with
  | .number => numberParam filter t
  | .quoted => .ok (.text (unquote t.text))
  | _ => .error fault

/-- An operator and a placeholder, with the key in front unless a negation puts it
there. -/
def operatorText (key : String) (negated : Bool) (operator : String) : String :=
  (if negated then "" else key ++ " ") ++ operator ++ " ?"

/-! ## Section 2: One operator and one operand -/

/-- `=value`, or a pattern if the value is a text with stars. -/
def equality (key filter : String) (negated : Bool) (operand : FilterToken) :
    Except Fault Condition :=
  match operand.kind with
  | .quoted =>
    let text := unquote operand.text
    let stars := starTokens text
    if 1 < stars.length then
      let subject := if negated then "not" else key
      .ok ⟨subject ++ " like ?", [.text (wildcardPattern stars)]⟩
    else
      .ok ⟨operatorText key negated "=", [.text text]⟩
  | _ => do
    let p ← operandParam filter .invalidOperand operand
    return ⟨operatorText key negated "=", [p]⟩

/-- `>value`, `>=value`, `<value`, `<=value`: never negated. -/
def comparison (key filter operator : String) (negated : Bool) (operand : FilterToken) :
    Except Fault Condition :=
  if negated then .error (.forbiddenAfterNot operator)
  else do
    let p ← operandParam filter .invalidOperand operand
    return ⟨key ++ " " ++ operator ++ " ?", [p]⟩

/-- `~value`: a text or the digits of a number anywhere in the property. -/
def search (key : String) (operand : FilterToken) : Except Fault Condition :=
  match operand.kind with
  | .number =>
    .ok ⟨"cast(" ++ key ++ " as varchar(32)) like ?", [.text ("%" ++ operand.text ++ "%")]⟩
  | .quoted =>
    .ok ⟨key ++ " like ?", [.text (containsPattern (starTokens (unquote operand.text)))]⟩
  | _ => .error .invalidLikeOperand

/-! ## Section 3: Lists -/

/-- The values of a list behind its opening bracket: values separated by commas
up to a closing bracket that ends the words. -/
def listParams (filter : String) : List FilterToken → Except Fault (List Param)
  | value :: separator :: rest => do
    let p ← operandParam filter (.invalidExpression filter) value
    match separator.kind with
    | .comma => return p :: (← listParams filter rest)
    | .closeBracket =>
      if rest.isEmpty then return [p] else throw (.invalidExpression filter)
    | _ => throw (.invalidExpression filter)
  | _ => .error (.invalidExpression filter)

/-- One placeholder for each value, separated by commas. -/
def placeholders (params : List Param) : String :=
  ",".intercalate (params.map fun _ => "?")

/-- `in(v1,v2,...)`, given the words behind `in`. -/
def membership (key filter : String) (negated : Bool) (rest : List FilterToken) :
    Except Fault Condition :=
  match rest with
  | bracket :: values => do
    if bracket.kind ≠ .openBracket then throw (.invalidExpression filter)
    let params ← listParams filter values
    let subject := if negated then "not in(" else key ++ " in("
    return ⟨subject ++ placeholders params ++ ")", params⟩
  | [] => .error (.invalidExpression filter)

/-! ## Section 4: Negation -/

/-- Is a text the beginning of one of the ends of another? -/
def beginsAnEnd (part : List Char) : List Char → Bool
  | [] => part.isEmpty
  | c :: cs => part.isPrefixOf (c :: cs) || beginsAnEnd part cs

/-- Does a text occur in another? -/
def occursIn (part text : String) : Bool := beginsAnEnd part.toList text.toList

theorem occursIn_iff (part text : String) :
    occursIn part text = true ↔ part.toList <:+: text.toList := by
  have begins (cs : List Char) :
      beginsAnEnd part.toList cs = true ↔ part.toList <:+: cs := by
    induction cs with
    | nil => simp [beginsAnEnd]
    | cons c cs ih =>
      simp only [beginsAnEnd, Bool.or_eq_true, List.isPrefixOf_iff_prefix, ih, List.infix_cons_iff]
  exact begins text.toList

/-- A predicate behind `!`: the key, the sign unless the predicate says `not`
itself, and the predicate. -/
def negate (key : String) (c : Condition) : Condition :=
  let negates := occursIn "not like " c.expression || occursIn "not in" c.expression
  ⟨key ++ " " ++ (if negates then "" else "!") ++ c.expression, c.params⟩

/-- The predicate that a list of words says about `key`. Faults name `filter`. -/
def ofWords (key filter : String) (negated : Bool) : List FilterToken → Except Fault Condition
  | [] => .error (.invalidExpression filter)
  | first :: rest =>
    let one (make : FilterToken → Except Fault Condition) : Except Fault Condition :=
      match rest with
      | [operand] => make operand
      | _ => .error (.invalidExpression filter)
    match first.kind with
    | .equalTo => one (equality key filter negated)
    | .greaterThan => one (comparison key filter ">" negated)
    | .greaterOrEqual => one (comparison key filter ">=" negated)
    | .lessThan => one (comparison key filter "<" negated)
    | .lessOrEqual => one (comparison key filter "<=" negated)
    | .like => one (search key)
    | .inList => membership key filter negated rest
    | .number =>
      if rest.isEmpty then do
        let p ← numberParam filter first
        return ⟨key ++ " = ?", [p]⟩
      else .error (.invalidExpression filter)
    | .negation =>
      match rest with
      | [] => .error (.invalidExpression filter)
      | [operand] => do
        let p ← operandParam filter (.invalidExpression filter) operand
        return ⟨key ++ " = !?", [p]⟩
      | second :: third :: more =>
        if second.kind = .like then .error .notBeforeLike
        else (ofWords key filter true (second :: third :: more)).map (negate key)
    | .quoted | .openBracket | .closeBracket | .comma => .error (.invalidExpression filter)

/-- The condition that the words of a filter say about `key`; no words say
nothing. -/
def ofTokens (key filter : String) (tokens : List FilterToken) : Except Fault Condition :=
  if tokens.isEmpty then .ok .always else ofWords key filter false tokens

end Predicate

end PropertyFilter
