import PropertyFilter.Calendar.Date
import PropertyFilter.Number.Digits

/-!
  # Moments

  A moment is a day and a time of day, as they are shown somewhere, together with
  the offset of that place from universal time. A leap second is second 60 of its
  minute; for counting seconds it is the same as second 59.

  `Moment.rfc3339` writes a moment in the usual notation, with as many digits of a
  fraction as it takes: none, three, six or nine.
-/

namespace PropertyFilter.Calendar

/-- A time of day to the nanosecond. -/
structure Clock where
  hour : Nat
  minute : Nat
  second : Nat
  nano : Nat
  hour_lt : hour < 24
  minute_lt : minute < 60
  second_le : second ≤ 60
  nano_lt : nano < 1000000000
deriving DecidableEq

namespace Clock

/-- The time of day with these parts, if they are in range. -/
def ofParts? (hour minute second nano : Nat) : Option Clock :=
  if h : hour < 24 ∧ minute < 60 ∧ second ≤ 60 ∧ nano < 1000000000 then
    some ⟨hour, minute, second, nano, h.1, h.2.1, h.2.2.1, h.2.2.2⟩
  else none

theorem ofParts?_self (t : Clock) : ofParts? t.hour t.minute t.second t.nano = some t := by
  simp [ofParts?, t.hour_lt, t.minute_lt, t.second_le, t.nano_lt]

/-- Is it a leap second? -/
def isLeap (t : Clock) : Bool := t.second = 60

/-- The number of seconds from midnight. -/
def secondOfDay (t : Clock) : Nat := 3600 * t.hour + 60 * t.minute + min t.second 59

end Clock

/-- The offset of a place from universal time, in minutes to the east. -/
structure Offset where
  minutes : Int
  below_day : minutes.natAbs < 1440
deriving DecidableEq

/-- The offset of that many minutes, if it is less than a day. -/
def Offset.ofMinutes? (minutes : Int) : Option Offset :=
  if h : minutes.natAbs < 1440 then some ⟨minutes, h⟩ else none

theorem Offset.ofMinutes?_self (o : Offset) : Offset.ofMinutes? o.minutes = some o := by
  simp [Offset.ofMinutes?, o.below_day]

/-- A day and a time of day at an offset. -/
structure Moment where
  date : Date
  clock : Clock
  offset : Offset
deriving DecidableEq

namespace Moment

/-- The number of seconds from 1970-01-01T00:00:00 as the place shows it. -/
def localSecond (date : Date) (clock : Clock) : Int := 86400 * date.dayNumber + clock.secondOfDay

/-- The number of seconds from 1970-01-01T00:00:00 in universal time. -/
def timestamp (m : Moment) : Int := localSecond m.date m.clock - 60 * m.offset.minutes

/-- The nanoseconds behind the second; a leap second counts as a second of them. -/
def nanos (m : Moment) : Nat := m.clock.nano + if m.clock.isLeap then 1000000000 else 0

/-! ## Section 1: The written form -/

/-- Four digits for the years from 0 to 9999, otherwise a sign and at least four. -/
def yearText (year : Int) : List Char :=
  if 0 ≤ year && year ≤ 9999 then Digits.padded 4 year.toNat
  else (if year < 0 then '-' else '+') :: Digits.padded 4 year.natAbs

/-- The fewest of three, six or nine digits that are exact; none for a whole
second. -/
def fractionText (nano : Nat) : List Char :=
  if nano = 0 then []
  else if nano % 1000000 = 0 then '.' :: Digits.padded 3 (nano / 1000000)
  else if nano % 1000 = 0 then '.' :: Digits.padded 6 (nano / 1000)
  else '.' :: Digits.padded 9 nano

/-- A sign, two digits of hours, a colon and two digits of minutes. -/
def offsetText (o : Offset) : List Char :=
  let n := o.minutes.natAbs
  (if o.minutes < 0 then '-' else '+') ::
    (Digits.padded 2 (n / 60) ++ ':' :: Digits.padded 2 (n % 60))

/-- The day in the usual notation. -/
def dateText (d : Date) : List Char :=
  yearText d.year ++ '-' :: (Digits.padded 2 d.month ++ '-' :: Digits.padded 2 d.day)

/-- The time of day in the usual notation. -/
def clockText (t : Clock) : List Char :=
  Digits.padded 2 t.hour ++ ':' :: (Digits.padded 2 t.minute ++ ':' ::
    (Digits.padded 2 t.second ++ fractionText t.nano))

/-- A moment in the usual notation, such as `2017-01-01T00:09:01.250+01:00`. -/
def rfc3339 (m : Moment) : String :=
  String.ofList (dateText m.date ++ 'T' :: (clockText m.clock ++ offsetText m.offset))

end Moment

end PropertyFilter.Calendar
