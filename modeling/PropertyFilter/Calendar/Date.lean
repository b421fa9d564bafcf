/-!
  # Dates

  Days of the Gregorian calendar, extended backwards and forwards, in the years
  from -262143 to 262142. Days are numbered from 1970-01-01, and within their year
  from 1.
-/

namespace PropertyFilter.Calendar

/-! ## Section 1: Years and months -/

/-- The first year there is. -/
abbrev minYear : Int := -262143

/-- The last year there is. -/
abbrev maxYear : Int := 262142

/-- A year with a 29th of February. -/
def isLeapYear (year : Int) : Bool :=
  year % 4 = 0 && (year % 100 ≠ 0 || year % 400 = 0)

/-- The number of days in a month from 1 to 12. -/
def daysInMonth (year : Int) (month : Nat) : Nat :=
  if month = 2 then if isLeapYear year then 29 else 28
  else if month = 4 || month = 6 || month = 9 || month = 11 then 30
  else 31

/-- Is there such a day? -/
def isDate (year : Int) (month day : Nat) : Bool :=
  minYear ≤ year && year ≤ maxYear && 1 ≤ month && month ≤ 12 &&
    1 ≤ day && day ≤ daysInMonth year month

/-- A day of the calendar. -/
structure Date where
  year : Int
  month : Nat
  day : Nat
  exists_day : isDate year month day = true
deriving DecidableEq

namespace Date

/-! ## Section 2: Making dates -/

/-- The day of that year, month and day, if there is one. -/
def ofYearMonthDay? (year : Int) (month day : Nat) : Option Date :=
  if h : isDate year month day = true then some ⟨year, month, day, h⟩ else none

theorem ofYearMonthDay?_self (d : Date) : ofYearMonthDay? d.year d.month d.day = some d := by
  simp [ofYearMonthDay?, d.exists_day]

/-- The number of days in a year before a month. -/
def daysBeforeMonth (year : Int) (month : Nat) : Nat :=
  (List.range (month - 1)).foldl (fun days m => days + daysInMonth year (m + 1)) 0

/-- The month in which a day of the year falls, and the days before the month. -/
def monthOfOrdinal (year : Int) (ordinal : Nat) : Nat :=
  ((List.range 12).filter fun m => daysBeforeMonth year (m + 1) < ordinal).length

/-- The day with that number in its year, if there is one. -/
def ofOrdinal? (year : Int) (ordinal : Nat) : Option Date :=
  let month := monthOfOrdinal year ordinal
  ofYearMonthDay? year month (ordinal - daysBeforeMonth year month)

/-- The number of a day in its year. -/
def ordinal (d : Date) : Nat := daysBeforeMonth d.year d.month + d.day

/-! ## Section 3: Day numbers -/

/-- The number of days from 0001-01-01 to the first day of a year. -/
def daysBeforeYear (year : Int) : Int :=
  let y := year - 1
  365 * y + y / 4 - y / 100 + y / 400

/-- The number of days from 1970-01-01. -/
def dayNumber (d : Date) : Int := daysBeforeYear d.year + d.ordinal - 1 - 719162

/-- The year of a day number and the number of the day in its year. A cycle of 400
years has 146097 days; the last day of a cycle, and of four years, would start one
more century, or year. -/
def yearAndOrdinal (n : Int) : Int × Nat :=
  let n := n + 719162
  let cycle := n / 146097
  let n := n % 146097
  let century := min (n / 36524) 3
  let n := n - century * 36524
  let four := n / 1461
  let n := n % 1461
  let one := min (n / 365) 3
  (400 * cycle + 100 * century + 4 * four + one + 1, (n - one * 365).toNat + 1)

/-- The day of the week, from Monday as 0. -/
def weekday (d : Date) : Nat := ((d.dayNumber + 3) % 7).toNat

/-- The number of the first day there is. -/
def minDayNumber : Int := daysBeforeYear minYear - 719162

/-- The number of the last day there is. -/
def maxDayNumber : Int := daysBeforeYear (maxYear + 1) - 1 - 719162

end Date

end PropertyFilter.Calendar
