import PropertyFilter.Calendar.Fields
import PropertyFilter.Calendar.Format

/-!
  # Reading a date by a format

  The items of a format take their fields from the front of a text, one after the
  other, and at the end nothing may be left. Numbers and offsets may have white
  space in front of them; names of months and days are read in any case.
-/

namespace PropertyFilter.Calendar

/-! ## Section 1: Numbers -/

/-- Takes digits from the front of a text, at least one and at most `limit`. -/
def takeNumber? (limit : Nat) (cs : List Char) : Option (Nat × List Char) :=
  match (cs.take limit).takeWhile Digits.isDigit with
  | [] => none
  | ds => some (Digits.ofDigits ds, cs.drop ds.length)

/-- Takes all digits from the front of a text, at least one. -/
def takeAllDigits? (cs : List Char) : Option (List Char × List Char) :=
  match cs.span Digits.isDigit with
  | ([], _) => none
  | found => some found

/-- Takes a year: four digits at most, or a sign and any number of digits. -/
def takeYear? (cs : List Char) : Option (Int × List Char) :=
  let signed (cs : List Char) (sign : Int) : Option (Int × List Char) :=
    (takeAllDigits? cs).map fun (ds, rest) => (sign * Digits.ofDigits ds, rest)
  match cs with
  | '-' :: rest => signed rest (-1)
  | '+' :: rest => signed rest 1
  | _ => (takeNumber? 4 cs).map fun (n, rest) => ((n : Int), rest)

/-- The nanoseconds of the digits behind a point; digits behind the ninth are of no
account. -/
def nanosOfDigits (ds : List Char) : Nat :=
  let ds := ds.take 9
  Digits.ofDigits ds * Nat.pow 10 (9 - ds.length)

/-- Takes exactly so many digits as a fraction of a second. -/
def takeFixedFraction? (digits : Nat) (cs : List Char) : Option (Nat × List Char) :=
  let ds := cs.take digits
  if ds.length = digits && ds.all Digits.isDigit then some (nanosOfDigits ds, cs.drop digits)
  else none

/-! ## Section 2: Names -/

/-- The months of the year. -/
def monthNames : List String :=
  ["january", "february", "march", "april", "may", "june", "july", "august", "september",
    "october", "november", "december"]

/-- The days of the week. -/
def weekdayNames : List String :=
  ["monday", "tuesday", "wednesday", "thursday", "friday", "saturday", "sunday"]

/-- Takes a word from the front of a text, in any case of its letters. -/
def takeWord? (word : List Char) (cs : List Char) : Option (List Char) :=
  if (cs.take word.length).map Char.toLower = word then some (cs.drop word.length) else none

/-- Takes the first three letters of one of the names, and if `long` is set the rest
of the name too when it is there; gives the place of the name in the list. -/
def takeName? (long : Bool) (names : List String) (cs : List Char) : Option (Nat × List Char) :=
  (names.zipIdx).findSome? fun (name, i) =>
    (takeWord? (name.toList.take 3) cs).map fun rest =>
      if long then (i, (takeWord? (name.toList.drop 3) rest).getD rest) else (i, rest)

/-! ## Section 3: Offsets -/

/-- The value of two digits. -/
def twoDigits? (a b : Char) : Option Nat :=
  if Digits.isDigit a && Digits.isDigit b then some (Digits.ofDigits [a, b]) else none

/-- Takes an offset, in minutes: a sign, two digits of hours, colons and white space
as many as there are, and two digits of minutes. -/
def takeOffset? (cs : List Char) : Option (Int × List Char) := do
  let (sign, rest) ← match cs with
    | '+' :: rest => some ((1 : Int), rest)
    | '-' :: rest => some (-1, rest)
    | '\u2212' :: rest => some (-1, rest)
    | _ => none
  let (hours, rest) ← match rest with
    | a :: b :: rest => (twoDigits? a b).map (·, rest)
    | _ => none
  let rest := rest.dropWhile fun c => c = ':' || Text.isBlank c
  let (minutes, rest) ← match rest with
    | a :: b :: rest => (twoDigits? a b).map (·, rest)
    | _ => none
  if minutes < 60 then some (sign * (60 * hours + minutes : Nat), rest) else none

/-! ## Section 4: Items -/

/-- Reads one number into a field. -/
def readNumber (limit : Nat) (set : Fields → Nat → Option Fields) (f : Fields) (cs : List Char) :
    Option (Fields × List Char) := do
  let (n, rest) ← takeNumber? limit (Text.trimStart cs)
  return (← set f n, rest)

/-- Reads what an item stands for from the front of a text. -/
def Item.read (f : Fields) (cs : List Char) : Item → Option (Fields × List Char)
  | .literal c =>
    match cs with
    | d :: rest => if d = c then some (f, rest) else none
    | [] => none
  | .space => some (f, Text.trimStart cs)
  | .year => do
    let (n, rest) ← takeYear? (Text.trimStart cs)
    return (← f.setYear n, rest)
  | .shortYear => readNumber 2 Fields.setShortYear f cs
  | .month => readNumber 2 Fields.setMonth f cs
  | .day => readNumber 2 Fields.setDay f cs
  | .ordinal => readNumber 3 Fields.setOrdinal f cs
  | .hour => readNumber 2 Fields.setHour f cs
  | .hour12 => readNumber 2 Fields.setHour12 f cs
  | .minute => readNumber 2 Fields.setMinute f cs
  | .second => readNumber 2 Fields.setSecond f cs
  | .nano => readNumber 9 Fields.setNano f cs
  | .timestamp => do
    let (ds, rest) ← takeAllDigits? (Text.trimStart cs)
    let n := Digits.ofDigits ds
    if 0x8000000000000000 ≤ n then none
    return (← f.setTimestamp n, rest)
  | .monthName long => do
    let (i, rest) ← takeName? long monthNames cs
    return (← f.setMonth (i + 1), rest)
  | .weekdayName long => do
    let (i, rest) ← takeName? long weekdayNames cs
    return (← f.setWeekday i, rest)
  | .weekdayNumber fromSunday => readNumber 1 (Fields.setWeekdayNumber fromSunday) f cs
  | .half =>
    match takeWord? ['a', 'm'] cs, takeWord? ['p', 'm'] cs with
    | some rest, _ => (f.setAfternoon false).map (·, rest)
    | _, some rest => (f.setAfternoon true).map (·, rest)
    | _, _ => none
  | .fraction =>
    match cs with
    | '.' :: rest => do
      let (ds, rest) ← takeAllDigits? rest
      return (← f.setNano (nanosOfDigits ds), rest)
    | _ => some (f, cs)
  | .fixedFraction digits =>
    match cs with
    | '.' :: rest => do
      let (n, rest) ← takeFixedFraction? digits rest
      return (← f.setNano n, rest)
    | _ => some (f, cs)
  | .bareFraction digits => do
    let (n, rest) ← takeFixedFraction? digits cs
    return (← f.setNano n, rest)
  | .offset => do
    let (minutes, rest) ← takeOffset? (Text.trimStart cs)
    return (← f.setOffset minutes, rest)

/-- Reads the items of a format from a text, all of it. -/
def readItems : List Item → Fields → List Char → Option Fields
  | [], f, [] => some f
  | [], _, _ :: _ => none
  | item :: items, f, cs => do
    let (f, rest) ← item.read f cs
    readItems items f rest

/-- The moment that a text denotes in a format. -/
def momentOf? (format text : String) : Option Moment := do
  let items ← readFormat format.toList
  let f ← readItems items {} text.toList
  f.resolve?

end PropertyFilter.Calendar
