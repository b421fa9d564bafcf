import PropertyFilter.Condition.Event
import PropertyFilter.Condition.Key
import PropertyFilter.Condition.Predicate

/-!
  # Conversion of filters

  A filter about a property becomes a condition:

      convert key filter
        split fails            → the literal  key = ?  bound to the filter
        three tokens, + or - in the middle
                               → both operands as simple filters, joined
        otherwise              → the whole as a simple filter
      simple filter
        no words               → the literal  key = ?  bound to it
        otherwise              → the predicate of its words

  A text that is no filter is thus a value to compare with, and a filter is refused
  only when its words are in a wrong order.
-/

namespace PropertyFilter

/-- The result of a conversion together with what it reports, in order. -/
structure Outcome where
  result : Except Fault Condition
  events : List Event

namespace Conversion

/-- The condition that the property equals a text. -/
def literal (key value : String) : Condition := ⟨key ++ " = ?", [.text value]⟩

/-- The conversion of a filter without a connective. -/
def simple (key value : String) : Outcome :=
  match filterTokens value with
  | .error e => ⟨.ok (literal key value), [.literal key value e]⟩
  | .ok tokens =>
    ⟨Predicate.ofTokens key value tokens, [.words key value tokens.length]⟩

/-- The conversion of two operands; the right one is left alone if the left one is
refused. -/
def compound (key : String) (filter : Compound) : Outcome :=
  let left := simple key filter.left
  match left.result with
  | .error fault => ⟨.error fault, .compound key filter :: left.events⟩
  | .ok l =>
    let right := simple key filter.right
    ⟨right.result.map (l.join filter.connective ·),
      .compound key filter :: (left.events ++ right.events)⟩

/-- The conversion of a filter about the property `key`. -/
def named (key value : String) : Outcome :=
  match splitTokens value with
  | .error e => ⟨.ok (literal key value), [.splitFailed key value e]⟩
  | .ok tokens =>
    match Compound.ofTokens? tokens with
    | some filter => compound key filter
    | none => simple key value

end Conversion

/-- The conversion of a filter. Only a key that names a property is accepted. -/
def convertReporting (key : Key) (value : String) : Outcome :=
  match key with
  | .name property => Conversion.named property value
  | .index _ => ⟨.error .severalProperties, []⟩
  | .other _ => ⟨.error .invalidKey, []⟩

/-- The condition that a filter says about its key. -/
def convert (key : Key) (value : String) : Except Fault Condition :=
  (convertReporting key value).result

end PropertyFilter
