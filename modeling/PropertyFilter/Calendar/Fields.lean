import PropertyFilter.Calendar.Moment

/-!
  # From fields to a moment

  Reading a date collects fields: a year, the month, an hour and so on, in any
  order. A field may come twice if it says the same both times. `resolve?` makes a
  moment of the fields, all of which must agree with it:

      date         year, month, day   or   year, day of the year
      time of day  hour, minute, and second 0 unless given
      offset       as given; universal time if there is only a timestamp
      timestamp    fills in what is missing of date and time of day

  A two-digit year below 70 is in this century, any other in the last one.
-/

namespace PropertyFilter.Calendar

/-- What has been read of a date. -/
structure Fields where
  year : Option Int := none
  /-- the last two digits of the year -/
  shortYear : Option Nat := none
  month : Option Nat := none
  day : Option Nat := none
  /-- the number of the day in its year -/
  ordinal : Option Nat := none
  /-- the day of the week, from Monday as 0 -/
  weekday : Option Nat := none
  /-- in the second half of the day? -/
  afternoon : Option Bool := none
  /-- the hour in its half of the day -/
  halfHour : Option Nat := none
  minute : Option Nat := none
  second : Option Nat := none
  nano : Option Nat := none
  timestamp : Option Int := none
  offset : Option Offset := none
deriving DecidableEq

namespace Fields

/-! ## Section 1: Setting fields -/

/-- A field with a value that may be there already, but not with another one. -/
def agree {α : Type} [DecidableEq α] (old : Option α) (new : α) : Option (Option α) :=
  match old with
  | none => some (some new)
  | some v => if v = new then some (some new) else none

/-- A value if it lies between two bounds. -/
def between (low high n : Nat) : Option Nat := if low ≤ n ∧ n ≤ high then some n else none

/-- Sets the year. -/
def setYear (f : Fields) (n : Int) : Option Fields := do
  return { f with year := ← agree f.year n }

/-- Sets the last two digits of the year. -/
def setShortYear (f : Fields) (n : Nat) : Option Fields := do
  return { f with shortYear := ← agree f.shortYear (← between 0 99 n) }

/-- Sets the month. -/
def setMonth (f : Fields) (n : Nat) : Option Fields := do
  return { f with month := ← agree f.month (← between 1 12 n) }

/-- Sets the day of the month. -/
def setDay (f : Fields) (n : Nat) : Option Fields := do
  return { f with day := ← agree f.day (← between 1 31 n) }

/-- Sets the day of the year. -/
def setOrdinal (f : Fields) (n : Nat) : Option Fields := do
  return { f with ordinal := ← agree f.ordinal (← between 1 366 n) }

/-- Sets the day of the week. -/
def setWeekday (f : Fields) (n : Nat) : Option Fields := do
  return { f with weekday := ← agree f.weekday n }

/-- Sets the day of the week by its number, from Sunday as 0 or from Monday as 1. -/
def setWeekdayNumber (fromSunday : Bool) (f : Fields) (n : Nat) : Option Fields := do
  let n ← if fromSunday then between 0 6 n else between 1 7 n
  f.setWeekday ((n + 6) % 7)

/-- Sets the half of the day. -/
def setAfternoon (f : Fields) (b : Bool) : Option Fields := do
  return { f with afternoon := ← agree f.afternoon b }

/-- Sets the hour of a day of twice twelve hours; twelve comes before one. -/
def setHour12 (f : Fields) (n : Nat) : Option Fields := do
  return { f with halfHour := ← agree f.halfHour ((← between 1 12 n) % 12) }

/-- Sets the hour, and with it the half of the day. -/
def setHour (f : Fields) (n : Nat) : Option Fields := do
  let n ← between 0 23 n
  let f ← f.setAfternoon (12 ≤ n)
  return { f with halfHour := ← agree f.halfHour (n % 12) }

/-- Sets the minute. -/
def setMinute (f : Fields) (n : Nat) : Option Fields := do
  return { f with minute := ← agree f.minute (← between 0 59 n) }

/-- Sets the second; 60 is a leap second. -/
def setSecond (f : Fields) (n : Nat) : Option Fields := do
  return { f with second := ← agree f.second (← between 0 60 n) }

/-- Sets the nanosecond. -/
def setNano (f : Fields) (n : Nat) : Option Fields := do
  return { f with nano := ← agree f.nano (← between 0 999999999 n) }

/-- Sets the timestamp. -/
def setTimestamp (f : Fields) (n : Int) : Option Fields := do
  return { f with timestamp := ← agree f.timestamp n }

/-- Sets the offset, in minutes. -/
def setOffset (f : Fields) (minutes : Int) : Option Fields := do
  return { f with offset := ← agree f.offset (← Offset.ofMinutes? minutes) }

/-! ## Section 2: Date and time of day -/

/-- Why the fields do not give a date or a time of day. -/
inductive Lack
  /-- Fields are missing. -/
  | incomplete
  /-- Fields contradict each other, or there is no such day. -/
  | impossible
deriving DecidableEq

/-- A found value, or the fields were impossible. -/
def orImpossible {α : Type} : Option α → Except Lack α
  | some x => .ok x
  | none => .error .impossible

/-- The year that the long and the short one agree on, if either is there. A year
before 0 has no short form. -/
def givenYear (f : Fields) : Except Lack (Option Int) :=
  match f.year, f.shortYear with
  | y, none => .ok y
  | some y, some r => if 0 ≤ y ∧ y % 100 = r then .ok (some y) else .error .impossible
  | none, some r => .ok (some (if r < 70 then 2000 + r else 1900 + r))

/-- Do the fields that are there say the same as a date? -/
def agreeWith (f : Fields) (d : Date) : Bool :=
  f.month.all (· = d.month) && f.day.all (· = d.day) && f.ordinal.all (· = d.ordinal) &&
    f.weekday.all (· = d.weekday)

/-- The date that the fields give. -/
def date (f : Fields) : Except Lack Date := do
  let some year ← f.givenYear | throw .incomplete
  let d ← match f.month, f.day, f.ordinal with
    | some month, some day, _ => orImpossible (Date.ofYearMonthDay? year month day)
    | _, _, some ordinal => orImpossible (Date.ofOrdinal? year ordinal)
    | _, _, _ => throw .incomplete
  if f.agreeWith d then return d else throw .impossible

/-- The time of day that the fields give; a fraction needs a second. -/
def clock (f : Fields) : Except Lack Clock :=
  match f.afternoon, f.halfHour, f.minute with
  | some afternoon, some halfHour, some minute =>
    if f.nano.isSome && f.second.isNone then .error .incomplete
    else
      orImpossible <| Clock.ofParts? ((if afternoon then 12 else 0) + halfHour) minute
        (f.second.getD 0) (f.nano.getD 0)
  | _, _, _ => .error .incomplete

/-! ## Section 3: Timestamps -/

/-- The fields with year, day of the year, hour and minute set from a number of
seconds from 1970-01-01, and the second too unless it is a leap second, which
counts as the second before or after it. -/
def fillFrom (f : Fields) (seconds : Int) : Option Fields := do
  let leap := f.second = some 60
  let ofMinute := seconds % 60
  if leap && ofMinute ≠ 59 && ofMinute ≠ 0 then none
  let seconds := if leap && ofMinute = 0 then seconds - 1 else seconds
  let day := seconds / 86400
  if day < Date.minDayNumber || Date.maxDayNumber < day then none
  let ofDay := (seconds % 86400).toNat
  let (year, ordinal) := Date.yearAndOrdinal day
  let f ← if leap then some f else f.setSecond (ofDay % 60)
  let f ← f.setYear year
  let f ← f.setOrdinal ordinal
  let f ← f.setHour (ofDay / 3600)
  f.setMinute (ofDay / 60 % 60)

/-- Does a timestamp belong to a day and a time of day? A leap second may be counted
as the second after it. -/
def isTimestampOf (timestamp : Int) (offset : Offset) (d : Date) (t : Clock) : Bool :=
  let actual := Moment.localSecond d t - 60 * offset.minutes
  timestamp = actual || (t.isLeap && timestamp = actual + 1)

/-- The date and time of day that the fields give with the help of the timestamp. -/
def dateAndClock (f : Fields) (offset : Offset) : Option (Date × Clock) :=
  match f.date, f.clock, f.timestamp with
  | .ok d, .ok t, none => some (d, t)
  | .ok d, .ok t, some timestamp =>
    if isTimestampOf timestamp offset d t then some (d, t) else none
  | .error .impossible, _, _ | _, .error .impossible, _ => none
  | _, _, none => none
  | _, _, some timestamp => do
    let seconds := timestamp + 60 * offset.minutes
    if 0x8000000000000000 ≤ seconds then none
    let f ← f.fillFrom seconds
    return (← f.date.toOption, ← f.clock.toOption)

/-- The moment that the fields give, if they agree and are enough. In universal time
too it must fall on a day that there is. -/
def resolve? (f : Fields) : Option Moment := do
  let offset ← match f.offset, f.timestamp with
    | some offset, _ => some offset
    | none, some _ => Offset.ofMinutes? 0
    | none, none => none
  let (date, clock) ← f.dateAndClock offset
  let m : Moment := ⟨date, clock, offset⟩
  let day := m.timestamp / 86400
  if Date.minDayNumber ≤ day ∧ day ≤ Date.maxDayNumber then some m else none

end Fields

end PropertyFilter.Calendar
