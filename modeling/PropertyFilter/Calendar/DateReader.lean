import PropertyFilter.Calendar.Reading

/-!
  # Readers of dates

  A reader has one format. The default format has no fraction of a second; a reader
  that has it accepts texts with one too.
-/

namespace PropertyFilter.Calendar

/-- Day, time and offset. -/
def defaultFormat : String := "%Y-%m-%dT%H:%M:%S%z"

/-- Day, time with an optional fraction, and offset. -/
def fractionalFormat : String := "%Y-%m-%dT%H:%M:%S%.f%:z"

/-- A text is no date in the format. -/
structure DateError where
  input : String
  format : String
deriving DecidableEq, Repr

/-- The wording of a date error. -/
def DateError.message (e : DateError) : String :=
  "'" ++ e.input ++ "' date string is not compliant with the configured format '" ++
    e.format ++ "' !"

/-- Reads dates in a format. -/
structure DateReader where
  format : String := defaultFormat
deriving DecidableEq, Repr

namespace DateReader

/-- Does the reader have the default format? -/
def isDefault (r : DateReader) : Bool := r.format == defaultFormat

/-- The moment that a text denotes. -/
def read (r : DateReader) (input : String) : Except DateError Moment :=
  let fallback := if r.isDefault then momentOf? fractionalFormat input else none
  match (momentOf? r.format input).or fallback with
  | some m => .ok m
  | none => .error ⟨input, r.format⟩

end DateReader

end PropertyFilter.Calendar
