import Mathlib.Data.List.Basic
import PropertyFilter.Proofs.Calendar.Fraction
import PropertyFilter.Proofs.Number.Digits
import PropertyFilter.Proofs.Text.Trimming
import PropertyFilter.Proofs.Token.Cutting

/-!
  # Written moments are read back

  The written form of a moment is read part by part, each by the item of the same meaning:

      2017 - 01 - 01 T 00 : 09 : 01 .250      +01:00
      year   month day   hour minute second fraction offset

  A year outside of 0 to 9999 has a sign, and then it may have any number of digits; a whole
  second has no fraction, and the item for one takes nothing. What is filled in are the fields
  of the moment itself (`Fields.ofMoment`), and they give the moment again if its day is one of
  the calendar in universal time too (`resolve?_ofMoment`). Readers read no other moments.

  Main statement: whatever moment a reader reads, in any format, the default reader reads its
  written form as the same moment (`read_rfc3339`).
-/

namespace PropertyFilter.Calendar

open Digits

/-! ## Section 1: Runs of digits -/

section numbers
variable {ds rest : List Char} {f g : Fields}

theorem isBlank_of_isDigit {c : Char} (hc : isDigit c = true) : Text.isBlank c = false := by
  obtain ⟨hzero, hnine⟩ := isDigit_iff_code.mp hc
  exact isBlank_of_visible (by omega) (by omega)

/-- A run of digits begins with one. -/
theorem exists_digit (hds : isRun ds = true) (rest : List Char) :
    ∃ c behind, ds ++ rest = c :: behind ∧ isDigit c = true := by
  obtain ⟨hne, hdigits⟩ := isRun_iff.mp hds
  obtain ⟨c, ds, rfl⟩ := List.exists_cons_of_ne_nil hne
  exact ⟨c, ds ++ rest, rfl, hdigits c (List.mem_cons_self ..)⟩

theorem trimStart_run (hds : isRun ds = true) (rest : List Char) :
    Text.trimStart (ds ++ rest) = ds ++ rest := by
  obtain ⟨c, behind, heq, hc⟩ := exists_digit hds rest
  rw [heq]
  exact List.dropWhile_cons_of_neg (by simp [isBlank_of_isDigit hc])

theorem trimStart_sign (negative : Prop) [Decidable negative] (cs : List Char) :
    Text.trimStart ((if negative then '-' else '+') :: cs) =
      (if negative then '-' else '+') :: cs := by
  refine List.dropWhile_cons_of_neg ?_
  split <;> decide

/-- A run as long as the limit is taken, whatever is behind it. -/
theorem takeNumber?_run (hds : isRun ds = true) (rest : List Char) :
    takeNumber? ds.length (ds ++ rest) = some (ofDigits ds, rest) := by
  obtain ⟨hne, hdigits⟩ := isRun_iff.mp hds
  have hrun : ds.takeWhile isDigit = ds := List.takeWhile_eq_self_iff.mpr hdigits
  unfold takeNumber?
  rw [List.take_left' rfl, hrun]
  split
  · contradiction
  · rw [List.drop_left' rfl]

/-- Without a limit a run ends at something else. -/
theorem takeAllDigits?_run (hds : isRun ds = true) (hrest : ∀ c ∈ rest.head?, isDigit c = false) :
    takeAllDigits? (ds ++ rest) = some (ds, rest) := by
  obtain ⟨hne, hdigits⟩ := isRun_iff.mp hds
  unfold takeAllDigits?
  rw [Matcher.span_run hdigits hrest]
  split
  · rename_i heq
    cases heq
    contradiction
  · rfl

/-- A number in its full width is read into its field. -/
theorem readNumber_padded {width n : Nat} {set : Fields → Nat → Option Fields}
    (hwidth : 0 < width) (hn : n < 10 ^ width) (hset : set f n = some g) :
    readNumber width set f (padded width n ++ rest) = some (g, rest) := by
  have htake : takeNumber? width (padded width n ++ rest) = some (n, rest) := by
    have hrun := takeNumber?_run (isRun_padded width n) rest
    rwa [length_padded hwidth hn, ofDigits_padded] at hrun
  unfold readNumber
  rw [trimStart_run (isRun_padded width n), htake]
  simp [hset]

end numbers

/-! ## Section 2: Fields that are still empty -/

namespace Fields

section empty
variable {f : Fields} {n : Nat}

theorem setYear_empty {year : Int} (h : f.year = none) :
    f.setYear year = some { f with year := year } := by
  simp [setYear, agree, h]

theorem setMonth_empty (h : f.month = none) (hn : 1 ≤ n ∧ n ≤ 12) :
    f.setMonth n = some { f with month := n } := by
  simp [setMonth, agree, between, h, hn]

theorem setDay_empty (h : f.day = none) (hn : 1 ≤ n ∧ n ≤ 31) :
    f.setDay n = some { f with day := n } := by
  simp [setDay, agree, between, h, hn]

theorem setHour_empty (hafternoon : f.afternoon = none) (hhour : f.halfHour = none)
    (hn : n ≤ 23) :
    f.setHour n = some { f with afternoon := some (12 ≤ n), halfHour := some (n % 12) } := by
  simp [setHour, setAfternoon, agree, between, hafternoon, hhour, hn]

theorem setMinute_empty (h : f.minute = none) (hn : n ≤ 59) :
    f.setMinute n = some { f with minute := n } := by
  simp [setMinute, agree, between, h, hn]

theorem setSecond_empty (h : f.second = none) (hn : n ≤ 60) :
    f.setSecond n = some { f with second := n } := by
  simp [setSecond, agree, between, h, hn]

theorem setNano_empty (h : f.nano = none) (hn : n ≤ 999999999) :
    f.setNano n = some { f with nano := n } := by
  simp [setNano, agree, between, h, hn]

theorem setOffset_empty (h : f.offset = none) (o : Offset) :
    f.setOffset o.minutes = some { f with offset := o } := by
  simp [setOffset, agree, Offset.ofMinutes?_self, h]

end empty

end Fields

/-! ## Section 3: Years, fractions and offsets -/

section parts
variable {rest : List Char} {f g : Fields}

/-- Without a sign a year has four digits at most. -/
theorem takeYear?_digit {c : Char} (hc : isDigit c = true) (cs : List Char) :
    takeYear? (c :: cs) = (takeNumber? 4 (c :: cs)).map fun (n, rest) => ((n : Int), rest) := by
  unfold takeYear?
  split
  · cases ‹c :: cs = _›
    cases hc
  · cases ‹c :: cs = _›
    cases hc
  · rfl

/-- Behind a sign a year has all the digits that there are. -/
theorem takeYear?_signed (n : Nat) (hrest : ∀ c ∈ rest.head?, isDigit c = false) :
    takeYear? ('-' :: (padded 4 n ++ rest)) = some (-(n : Int), rest) ∧
      takeYear? ('+' :: (padded 4 n ++ rest)) = some ((n : Int), rest) := by
  have htake := takeAllDigits?_run (isRun_padded 4 n) hrest
  constructor
  · show (takeAllDigits? (padded 4 n ++ rest)).map _ = _
    simp only [htake, Option.map_some, ofDigits_padded, Int.neg_one_mul]
  · show (takeAllDigits? (padded 4 n ++ rest)).map _ = _
    simp only [htake, Option.map_some, ofDigits_padded, Int.one_mul]

/-- **A written year** of any size and sign is taken whole. -/
theorem takeYear?_yearText (year : Int) (hrest : ∀ c ∈ rest.head?, isDigit c = false) :
    takeYear? (Moment.yearText year ++ rest) = some (year, rest) := by
  unfold Moment.yearText
  by_cases hshort : 0 ≤ year ∧ year ≤ 9999
  · -- no sign, and as many digits as are taken without one
    have hfour : year.toNat < 10 ^ 4 := by omega
    have htake := takeNumber?_run (isRun_padded 4 year.toNat) rest
    rw [length_padded (by decide) hfour, ofDigits_padded] at htake
    obtain ⟨c, behind, heq, hc⟩ := exists_digit (isRun_padded 4 year.toNat) rest
    rw [if_pos (by simpa using hshort), heq, takeYear?_digit hc, ← heq, htake]
    simp only [Option.map_some, Int.toNat_of_nonneg hshort.1]
  · -- a sign, and all digits up to the rest
    rw [if_neg (by simpa using hshort), List.cons_append]
    obtain ⟨hminus, hplus⟩ := takeYear?_signed year.natAbs hrest
    by_cases hneg : year < 0
    · rw [if_pos hneg, hminus, show -(year.natAbs : Int) = year by omega]
    · rw [if_neg hneg, hplus, show (year.natAbs : Int) = year by omega]

theorem trimStart_yearText (year : Int) (rest : List Char) :
    Text.trimStart (Moment.yearText year ++ rest) = Moment.yearText year ++ rest := by
  unfold Moment.yearText
  split
  · exact trimStart_run (isRun_padded 4 _) rest
  · exact trimStart_sign (year < 0) _

/-- Nine digits behind the point are nanoseconds, fewer of them a multiple. -/
theorem nanosOfDigits_padded {width n : Nat} (hwidth : 0 < width) (hnine : width ≤ 9)
    (hn : n < 10 ^ width) : nanosOfDigits (padded width n) = n * 10 ^ (9 - width) := by
  have hlength := length_padded hwidth hn
  simp only [nanosOfDigits, List.take_of_length_le (hlength.le.trans hnine), ofDigits_padded,
    hlength]
  rfl

theorem fraction_read_padded {width n : Nat} (hwidth : 0 < width) (hnine : width ≤ 9)
    (hn : n < 10 ^ width) (hrest : ∀ c ∈ rest.head?, isDigit c = false)
    (hset : f.setNano (n * 10 ^ (9 - width)) = some g) :
    Item.read f ('.' :: (padded width n ++ rest)) .fraction = some (g, rest) := by
  simp only [Item.read, takeAllDigits?_run (isRun_padded width n) hrest, Option.bind_eq_bind,
    Option.bind_some, nanosOfDigits_padded hwidth hnine hn, hset]
  rfl

/-- **A written fraction** gives the nanoseconds, in as few digits as it may have; a whole
second gives none. -/
theorem fraction_read_fractionText {nano : Nat} (hnano : nano < 1000000000)
    (hrest : ∀ c ∈ rest.head?, isDigit c = false ∧ c ≠ '.') (hempty : f.nano = none) :
    Item.read f (Moment.fractionText nano ++ rest) .fraction =
      some ({ f with nano := if nano = 0 then none else nano }, rest) := by
  have hdigit : ∀ c ∈ rest.head?, isDigit c = false := fun c hc => (hrest c hc).1
  have hset : f.setNano nano = some { f with nano := nano } :=
    Fields.setNano_empty hempty (by omega)
  unfold Moment.fractionText
  by_cases hzero : nano = 0
  · -- nothing is written, and what follows is no point
    rw [if_pos hzero, if_pos hzero, ← hempty]
    exact fraction_read_of_no_point fun c hc => (hrest c hc).2
  rw [if_neg hzero, if_neg hzero]
  by_cases hmilli : nano % 1000000 = 0
  · -- three digits
    rw [if_pos hmilli]
    refine fraction_read_padded (by decide) (by decide) (by omega) hdigit ?_
    rwa [show nano / 1000000 * 10 ^ (9 - 3) = nano by omega]
  rw [if_neg hmilli]
  by_cases hmicro : nano % 1000 = 0
  · -- six digits
    rw [if_pos hmicro]
    refine fraction_read_padded (by decide) (by decide) (by omega) hdigit ?_
    rwa [show nano / 1000 * 10 ^ (9 - 6) = nano by omega]
  · -- all nine digits
    rw [if_neg hmicro]
    exact fraction_read_padded (by decide) (by decide) (by omega) hdigit (by simpa using hset)

/-- Two digits are read by themselves. -/
theorem exists_twoDigits {n : Nat} (hn : n < 100) :
    ∃ a b, padded 2 n = [a, b] ∧ isDigit a = true ∧ twoDigits? a b = some n := by
  have hlength : (padded 2 n).length = 2 := length_padded (by decide) (by omega)
  obtain ⟨a, b, hab⟩ := List.length_eq_two.mp hlength
  have hdigits := (isRun_iff.mp (isRun_padded 2 n)).2
  rw [hab] at hdigits
  have ha := hdigits a (by simp)
  have hb := hdigits b (by simp)
  refine ⟨a, b, hab, ha, ?_⟩
  unfold twoDigits?
  rw [if_pos (by simp [ha, hb]), ← hab, ofDigits_padded]

/-- Behind a sign an offset has hours, a colon and minutes. -/
theorem takeOffset?_signed {hours minutes : Nat} (hhours : hours < 100) (hminutes : minutes < 60)
    (rest : List Char) :
    takeOffset? ('-' :: (padded 2 hours ++ ':' :: (padded 2 minutes ++ rest))) =
        some (-((60 * hours + minutes : Nat) : Int), rest) ∧
      takeOffset? ('+' :: (padded 2 hours ++ ':' :: (padded 2 minutes ++ rest))) =
        some (((60 * hours + minutes : Nat) : Int), rest) := by
  obtain ⟨a, b, hab, -, hhour⟩ := exists_twoDigits hhours
  obtain ⟨c, d, hcd, hc, hminute⟩ := exists_twoDigits (show minutes < 100 by omega)
  -- what is skipped between them is the colon
  have hskip : (':' :: c :: d :: rest).dropWhile (fun c => c = ':' || Text.isBlank c) =
      c :: d :: rest := by
    have hcolon : c ≠ ':' := by
      rintro rfl
      cases hc
    simp [hcolon, isBlank_of_isDigit hc]
  rw [hab, hcd]
  constructor
  · simp only [takeOffset?, List.cons_append, List.nil_append, hskip, hhour, hminute,
      Option.bind_eq_bind, Option.bind_some, Option.map_some, if_pos hminutes, Int.neg_one_mul]
  · simp only [takeOffset?, List.cons_append, List.nil_append, hskip, hhour, hminute,
      Option.bind_eq_bind, Option.bind_some, Option.map_some, if_pos hminutes, Int.one_mul]

/-- **A written offset** is taken to the minute. -/
theorem takeOffset?_offsetText (o : Offset) (rest : List Char) :
    takeOffset? (Moment.offsetText o ++ rest) = some (o.minutes, rest) := by
  have hbelow := o.below_day
  obtain ⟨hminus, hplus⟩ := takeOffset?_signed (show o.minutes.natAbs / 60 < 100 by omega)
    (show o.minutes.natAbs % 60 < 60 by omega) rest
  have hminutes : 60 * (o.minutes.natAbs / 60) + o.minutes.natAbs % 60 = o.minutes.natAbs :=
    Nat.div_add_mod _ _
  rw [hminutes] at hminus hplus
  simp only [Moment.offsetText, List.cons_append, List.append_assoc]
  by_cases hwest : o.minutes < 0
  · rw [if_pos hwest, hminus, show -(o.minutes.natAbs : Int) = o.minutes by omega]
  · rw [if_neg hwest, hplus, show (o.minutes.natAbs : Int) = o.minutes by omega]

end parts

/-! ## Section 4: The fields of a moment -/

/-- The day of the moment in universal time is one of the calendar. -/
def Moment.InCalendar (m : Moment) : Prop :=
  Date.minDayNumber ≤ m.timestamp / 86400 ∧ m.timestamp / 86400 ≤ Date.maxDayNumber

instance (m : Moment) : Decidable m.InCalendar :=
  inferInstanceAs (Decidable (_ ∧ _))

namespace Fields

/-- The fields of a day. -/
def ofDate (d : Date) : Fields := { year := d.year, month := d.month, day := d.day }

/-- The fields of a time of day, behind others; a whole second has no nanoseconds. -/
def withClock (f : Fields) (t : Clock) : Fields :=
  { f with
    afternoon := some (12 ≤ t.hour)
    halfHour := some (t.hour % 12)
    minute := t.minute
    second := t.second
    nano := if t.nano = 0 then none else t.nano }

/-- The fields of a moment. -/
def ofMoment (m : Moment) : Fields := { (ofDate m.date).withClock m.clock with offset := m.offset }

/-- Moments are made in the calendar only. -/
theorem inCalendar_of_resolve? {f : Fields} {m : Moment} (h : f.resolve? = some m) :
    m.InCalendar := by
  -- whichever way the offset is found, the last step looks at the day
  have hoffset (o : Offset) (h : ((f.dateAndClock o).bind fun found =>
      if Moment.InCalendar ⟨found.1, found.2, o⟩ then some (⟨found.1, found.2, o⟩ : Moment)
      else none) = some m) : m.InCalendar := by
    obtain ⟨_, _, h⟩ := Option.bind_eq_some_iff.mp h
    obtain ⟨hday, heq⟩ := Option.ite_none_right_eq_some.mp h
    cases heq
    exact hday
  unfold resolve? at h
  split at h
  · exact hoffset _ h
  · obtain ⟨o, -, h⟩ := Option.bind_eq_some_iff.mp h
    exact hoffset o h
  · cases h

theorem date_ofMoment (m : Moment) : (ofMoment m).date = .ok m.date := by
  have hagree : (ofMoment m).agreeWith m.date = true := by
    simp [ofMoment, ofDate, withClock, agreeWith]
  show (orImpossible (Date.ofYearMonthDay? m.date.year m.date.month m.date.day)).bind (fun d =>
    if (ofMoment m).agreeWith d then .ok d else .error .impossible) = _
  rw [Date.ofYearMonthDay?_self]
  exact if_pos hagree

theorem clock_ofMoment (m : Moment) : (ofMoment m).clock = .ok m.clock := by
  -- the half of the day and the hour in it make the hour again
  have hhour : (if decide (12 ≤ m.clock.hour) = true then 12 else 0) + m.clock.hour % 12 =
      m.clock.hour := by
    have hlt := m.clock.hour_lt
    simp only [decide_eq_true_eq]
    split <;> omega
  -- nanoseconds that are not there count as none
  have hnano : (ofMoment m).nano.getD 0 = m.clock.nano := by
    show (if m.clock.nano = 0 then none else some m.clock.nano).getD 0 = m.clock.nano
    split <;> simp_all
  show (if ((ofMoment m).nano.isSome && false) = true then _ else
    orImpossible (Clock.ofParts? _ m.clock.minute m.clock.second ((ofMoment m).nano.getD 0))) = _
  rw [hhour, hnano, Clock.ofParts?_self, Bool.and_false]
  rfl

/-- **The fields of a moment give it again**, if its day is one of the calendar. -/
theorem resolve?_ofMoment (m : Moment) :
    (ofMoment m).resolve? = if m.InCalendar then some m else none := by
  have hboth : (ofMoment m).dateAndClock m.offset = some (m.date, m.clock) := by
    unfold dateAndClock
    rw [date_ofMoment, clock_ofMoment]
    rfl
  show ((ofMoment m).dateAndClock m.offset).bind _ = _
  rw [hboth]
  rfl

end Fields

/-! ## Section 5: Reading a written moment -/

theorem Date.bounds (d : Date) : (1 ≤ d.month ∧ d.month ≤ 12) ∧ 1 ≤ d.day ∧ d.day ≤ 31 := by
  have hdate := d.exists_day
  have hlast : daysInMonth d.year d.month ≤ 31 := by
    unfold daysInMonth
    split_ifs <;> decide
  simp only [isDate, Bool.and_eq_true, decide_eq_true_eq] at hdate
  omega

section written
variable {rest : List Char} {f g : Fields}

theorem literal_read (c : Char) (rest : List Char) :
    Item.read f (c :: rest) (.literal c) = some (f, rest) := by
  simp only [Item.read, if_pos]

theorem year_read {year : Int} (hrest : ∀ c ∈ rest.head?, isDigit c = false)
    (hset : f.setYear year = some g) :
    Item.read f (Moment.yearText year ++ rest) .year = some (g, rest) := by
  simp only [Item.read, trimStart_yearText, takeYear?_yearText year hrest, Option.bind_eq_bind,
    Option.bind_some, hset]
  rfl

theorem offset_read {o : Offset} (hset : f.setOffset o.minutes = some g) :
    Item.read f (Moment.offsetText o ++ rest) .offset = some (g, rest) := by
  have htrim : Text.trimStart (Moment.offsetText o ++ rest) = Moment.offsetText o ++ rest :=
    trimStart_sign (o.minutes < 0) _
  simp only [Item.read, htrim, takeOffset?_offsetText, Option.bind_eq_bind, Option.bind_some, hset]
  rfl

/-- A written day fills in its year, month and day. -/
theorem fills_dateText (d : Date) (rest : List Char) :
    Fills [.year, .literal '-', .month, .literal '-', .day] {} (Moment.dateText d ++ rest)
      (.ofDate d) rest := by
  obtain ⟨hmonth, hday⟩ := d.bounds
  -- the year is the one part without a width, and it ends at the minus sign
  simp only [Moment.dateText, List.append_assoc, List.cons_append]
  refine .cons (year_read (by simp; decide) (Fields.setYear_empty rfl)) ?_
  refine .cons (literal_read ..) ?_
  refine .cons (readNumber_padded (by decide) (by omega) (Fields.setMonth_empty rfl hmonth)) ?_
  refine .cons (literal_read ..) ?_
  exact .cons (readNumber_padded (by decide) (by omega) (Fields.setDay_empty rfl hday)) .nil

/-- A written time of day fills in its fields, and a whole second no nanoseconds. -/
theorem fills_clockText (d : Date) (t : Clock)
    (hrest : ∀ c ∈ rest.head?, isDigit c = false ∧ c ≠ '.') :
    Fills (Item.timeOfDay ++ [.fraction]) (.ofDate d) (Moment.clockText t ++ rest)
      ((Fields.ofDate d).withClock t) rest := by
  have hhour : t.hour ≤ 23 := Nat.le_of_lt_succ t.hour_lt
  have hminute : t.minute ≤ 59 := Nat.le_of_lt_succ t.minute_lt
  have hsecond : t.second ≤ 60 := t.second_le
  simp only [Moment.clockText, List.append_assoc, List.cons_append, Item.timeOfDay,
    List.nil_append]
  refine .cons (readNumber_padded (by decide) (by omega) (Fields.setHour_empty rfl rfl hhour)) ?_
  refine .cons (literal_read ..) ?_
  refine .cons (readNumber_padded (by decide) (by omega) (Fields.setMinute_empty rfl hminute)) ?_
  refine .cons (literal_read ..) ?_
  refine .cons (readNumber_padded (by decide) (by omega) (Fields.setSecond_empty rfl hsecond)) ?_
  exact .cons (fraction_read_fractionText t.nano_lt hrest rfl) .nil

/-- **A written moment** fills in its fields and leaves nothing. -/
theorem fills_rfc3339 (m : Moment) :
    Fills (dateAndTime ++ [.fraction, .offset]) {} m.rfc3339.toList (.ofMoment m) [] := by
  have hsign : ∀ c ∈ (Moment.offsetText m.offset).head?, isDigit c = false ∧ c ≠ '.' := by
    intro c hc
    obtain rfl := Option.some.inj hc
    split <;> decide
  have hoffset : Item.read ((Fields.ofDate m.date).withClock m.clock)
      (Moment.offsetText m.offset ++ []) .offset = some (.ofMoment m, []) :=
    offset_read (Fields.setOffset_empty rfl m.offset)
  rw [List.append_nil] at hoffset
  have hbehind : Fills (Item.timeOfDay ++ [.fraction] ++ [.offset]) (.ofDate m.date)
      (Moment.clockText m.clock ++ Moment.offsetText m.offset) (.ofMoment m) [] :=
    fills_append_iff.mpr ⟨_, _, fills_clockText m.date m.clock hsign, .cons hoffset .nil⟩
  -- cut behind the day, and behind the fraction, which belongs to the time of day
  have hitems : dateAndTime ++ [.fraction, .offset] =
      [.year, .literal '-', .month, .literal '-', .day] ++
        .literal 'T' :: (Item.timeOfDay ++ [.fraction] ++ [.offset]) := rfl
  rw [hitems, Moment.rfc3339, String.toList_ofList]
  exact fills_append_iff.mpr
    ⟨_, _, fills_dateText m.date _, .cons (literal_read 'T' _) hbehind⟩

end written

/-! ## Section 6: The round trip -/

/-- A written moment is read as itself if its day is one of the calendar, and else refused. -/
theorem read_written (m : Moment) :
    DateReader.read {} m.rfc3339 =
      if m.InCalendar then .ok m else .error ⟨m.rfc3339, defaultFormat⟩ := by
  have hmoment : momentOf? fractionalFormat m.rfc3339 = if m.InCalendar then some m else none := by
    unfold momentOf?
    rw [readFormat_fractional, Option.bind_eq_bind, Option.bind_some,
      readItems_eq_some_iff.mpr (fills_rfc3339 m)]
    exact Fields.resolve?_ofMoment m
  rw [read_default, hmoment]
  split_ifs <;> rfl

/-- A moment that is read comes from one of the two formats. -/
theorem momentOf?_of_read {r : DateReader} {text : String} {m : Moment}
    (h : r.read text = .ok m) : ∃ format, momentOf? format text = some m := by
  simp only [DateReader.read] at h
  split at h
  · rename_i found hfound
    cases h
    -- the format of the reader, or the one with a fraction behind the default format
    rcases Option.or_eq_some_iff.mp hfound with hfound | ⟨-, hfallback⟩
    · exact ⟨_, hfound⟩
    · exact ⟨_, (Option.ite_none_right_eq_some.mp hfallback).2⟩
  · cases h

/-- Readers read moments of the calendar only. -/
theorem inCalendar_of_read {r : DateReader} {text : String} {m : Moment}
    (h : r.read text = .ok m) : m.InCalendar := by
  obtain ⟨format, h⟩ := momentOf?_of_read h
  obtain ⟨items, -, h⟩ := Option.bind_eq_some_iff.mp h
  obtain ⟨f, -, h⟩ := Option.bind_eq_some_iff.mp h
  exact Fields.inCalendar_of_resolve? h

/-- **What is written of a moment is read back**: whatever moment a reader has read from a text,
in whatever format, the default reader reads its written form as that moment, day and time and
offset. -/
theorem read_rfc3339 {r : DateReader} {text : String} {m : Moment} (h : r.read text = .ok m) :
    DateReader.read {} m.rfc3339 = .ok m := by
  rw [read_written, if_pos (inCalendar_of_read h)]

/-- A leap second with a fraction, in a year of five digits and west of Greenwich, read in another
format. -/
theorem read_rfc3339_leap_second :
    ∃ m, DateReader.read ⟨"%d.%m.%Y %H:%M:%S%.f %z"⟩ "31.12.+12016 23:59:60.25 -0130" = .ok m ∧
      m.rfc3339 = "+12016-12-31T23:59:60.250-01:30" ∧ DateReader.read {} m.rfc3339 = .ok m := by
  have hread : DateReader.read ⟨"%d.%m.%Y %H:%M:%S%.f %z"⟩ "31.12.+12016 23:59:60.25 -0130" =
      .ok ⟨⟨12016, 12, 31, by decide⟩,
        ⟨23, 59, 60, 250000000, by decide, by decide, by decide, by decide⟩,
        ⟨-90, by decide⟩⟩ := by
    decide +kernel
  exact ⟨_, hread, by decide +kernel, read_rfc3339 hread⟩

end PropertyFilter.Calendar
