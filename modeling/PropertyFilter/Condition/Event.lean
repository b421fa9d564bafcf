import PropertyFilter.Filter.Connective
import PropertyFilter.Log.Record

/-!
  # What a conversion reports

  A conversion reports how it reads a filter. That a filter is taken as a literal
  is reported for debugging, since a slip of the pen looks the same; the rest is
  of interest to a trace only.
-/

namespace PropertyFilter

/-- What a conversion reports. -/
inductive Event
  /-- The filter cannot be split; it is bound as a literal. -/
  | splitFailed (key value : String) (error : ScanError)
  /-- The filter joins two filters. -/
  | compound (key : String) (filter : Compound)
  /-- The filter, or an operand of one, has no words; it is bound as a literal. -/
  | literal (key value : String) (error : ScanError)
  /-- The filter, or an operand of one, has this many words. -/
  | words (key value : String) (count : Nat)
deriving DecidableEq, Repr

namespace Event

/-- The event as a log record. -/
def toRecord : Event → Log.Record
  | splitFailed key value error =>
    { level := .debug
      message := "logic split failed, binding value as a literal"
      fields := [("key", .quoted key), ("value", .quoted value), ("error", .plain error.message)] }
  | compound key filter =>
    { level := .trace
      message := "compound filter"
      fields := [("key", .quoted key), ("left", .quoted filter.left),
        ("right", .quoted filter.right), ("joiner", .quoted filter.connective.word)] }
  | literal key value error =>
    { level := .debug
      message := "not a filter expression, binding value as a literal"
      fields := [("key", .quoted key), ("value", .quoted value), ("error", .plain error.message)] }
  | words key value count =>
    { level := .trace
      message := "filter tokens"
      fields := [("key", .quoted key), ("value", .quoted value),
        ("count", .plain (Digits.ofInt count))] }

end Event

end PropertyFilter
