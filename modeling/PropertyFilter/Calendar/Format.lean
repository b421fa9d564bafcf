import PropertyFilter.Text.Blank

/-!
  # Date formats

  A format is a text in which a percent sign and the letters behind it stand for a
  field of a date; white space stands for any white space, also none, and other
  characters for themselves.

      %Y %y            year, its last two digits
      %m %b %h %B      month as a number or a name
      %d %e %j         day of the month, of the year
      %a %A            day of the week
      %u %w            its number from Monday as 1, from Sunday as 0
      %H %k %I %l      hour, hour of twice twelve
      %p %P            am or pm
      %M %S            minute, second
      %f %.f %.3f %3f  fraction of a second (also with 6 and 9)
      %z %:z           offset (also with two or three colons)
      %s               timestamp
      %F %T %X %R      %Y-%m-%d, %H:%M:%S twice, %H:%M
      %D %x %r         %m/%d/%y twice, %I:%M:%S %p
      %v %c            %e-%b-%Y, %a %b %e %T %Y
      %n %t %%         white space, a percent sign

  Between the percent sign and the letter of a number a `-`, `_` or `0` makes no
  difference. A format with anything else behind a percent sign fits no text.

  Left out are fields that formats of this kind have elsewhere, and a format with one of
  them fits no text either:

      %C %q            century, quarter
      %G %g %V         year and week of the ISO calendar
      %U %W            week of the year
      %Z %#z           name of a zone, offset that may lack its minutes
      %+               a whole moment
-/

namespace PropertyFilter.Calendar

/-- A part of a date format. -/
inductive Item
  | literal (c : Char)
  | space
  | year
  | shortYear
  | month
  | day
  | ordinal
  | hour
  | hour12
  | minute
  | second
  | nano
  | timestamp
  /-- the first three letters, or any more up to the whole name -/
  | monthName (long : Bool)
  | weekdayName (long : Bool)
  /-- from Sunday as 0, or from Monday as 1 -/
  | weekdayNumber (fromSunday : Bool)
  | half
  /-- a point and digits, if there is a point -/
  | fraction
  /-- a point and that many digits, if there is a point -/
  | fixedFraction (digits : Nat)
  /-- that many digits -/
  | bareFraction (digits : Nat)
  | offset
deriving DecidableEq, Repr

namespace Item

/-- The numbers, by their letter. -/
def number? : Char → Option Item
  | 'Y' => some year
  | 'y' => some shortYear
  | 'm' => some month
  | 'd' | 'e' => some day
  | 'j' => some ordinal
  | 'u' => some (weekdayNumber false)
  | 'w' => some (weekdayNumber true)
  | 'H' | 'k' => some hour
  | 'I' | 'l' => some hour12
  | 'M' => some minute
  | 'S' => some second
  | 'f' => some nano
  | 's' => some timestamp
  | _ => none

/-- Hour, minute and second with colons between them. -/
def timeOfDay : List Item := [hour, literal ':', minute, literal ':', second]

/-- What a letter behind a percent sign stands for; some stand for several items. The letters
of the fields that are left out stand for nothing. -/
def field? (letter : Char) : Option (List Item) :=
  match number? letter with
  | some item => some [item]
  | none =>
    match letter with
    | 'b' | 'h' => some [monthName false]
    | 'B' => some [monthName true]
    | 'a' => some [weekdayName false]
    | 'A' => some [weekdayName true]
    | 'p' | 'P' => some [half]
    | 'z' => some [offset]
    | 'F' => some [year, literal '-', month, literal '-', day]
    | 'T' | 'X' => some timeOfDay
    | 'R' => some [hour, literal ':', minute]
    | 'D' | 'x' => some [month, literal '/', day, literal '/', shortYear]
    | 'r' => some [hour12, literal ':', minute, literal ':', second, space, half]
    | 'v' => some [day, literal '-', monthName false, literal '-', year]
    | 'c' =>
      some ([weekdayName false, space, monthName false, space, day, space] ++ timeOfDay ++
        [space, year])
    | 'n' | 't' => some [space]
    | '%' => some [literal '%']
    | _ => none

end Item

/-- The signs that make no difference between a percent sign and a number. -/
def isPadding (c : Char) : Bool := c = '-' || c = '_' || c = '0'

/-- The items that stand for more than one letter behind a percent sign. -/
def longFields : List (String × Item) :=
  [ (":z", .offset), ("::z", .offset), (":::z", .offset), (".f", .fraction),
    (".3f", .fixedFraction 3), (".6f", .fixedFraction 6), (".9f", .fixedFraction 9),
    ("3f", .bareFraction 3), ("6f", .bareFraction 6), ("9f", .bareFraction 9) ]

/-- The item of several letters that a text behind a percent sign begins with, and the
number of its letters. -/
def longField? (cs : List Char) : Option (Item × Nat) :=
  longFields.findSome? fun (letters, item) =>
    if letters.toList.isPrefixOf cs then some (item, letters.toList.length) else none

/-- The items that a text behind a percent sign begins with, and the number of letters that
stand for them; none if they have no meaning or are left out. -/
def field? (cs : List Char) : Option (List Item × Nat) :=
  match longField? cs, cs with
  | some (item, n), _ => some ([item], n)
  | none, [] => none
  | none, c :: rest =>
    if isPadding c then do return ([← Item.number? (← rest.head?)], 2)
    else (Item.field? c).map (·, 1)

/-- The items of a format behind the given number of letters that have been read already;
none if something in it has no meaning. -/
def readFormatBehind : Nat → List Char → Option (List Item)
  | _, [] => some []
  | letters + 1, _ :: rest => readFormatBehind letters rest
  | 0, '%' :: rest =>
    match field? rest with
    | some (items, letters) => (readFormatBehind letters rest).map (items ++ ·)
    | none => none
  | 0, c :: rest =>
    (readFormatBehind 0 rest).map ((if Text.isBlank c then .space else .literal c) :: ·)

/-- The items of a format; none if something in it has no meaning. -/
def readFormat (cs : List Char) : Option (List Item) := readFormatBehind 0 cs

end PropertyFilter.Calendar
