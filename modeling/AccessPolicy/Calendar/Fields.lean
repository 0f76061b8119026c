import AccessPolicy.Calendar.Directive
import AccessPolicy.Calendar.Instant

/-!
# Gathered fields of a date

The fields that a text gave for a date and a time, and the date and the time that follow from
them. A field that is given twice must agree with itself, and all given fields must agree with
the date that some of them determine.
-/

namespace AccessPolicy

/-- Why gathered fields give no date. -/
inductive FieldError where
  /-- A number lies outside the range of its field or of the calendar. -/
  | outOfRange
  /-- Two fields disagree. -/
  | impossible
  /-- Fields are missing. -/
  | insufficient
  /-- The text does not have the form of the pattern. -/
  | malformed
deriving DecidableEq

/-- What a text gave for each field. -/
structure DateFields where
  /-- The year. -/
  year : Option Int := none
  /-- The hundreds of the year. -/
  century : Option Int := none
  /-- The last two digits of the year. -/
  yearOfCentury : Option Int := none
  /-- The year of the week. -/
  isoYear : Option Int := none
  /-- The last two digits of the year of the week. -/
  isoYearOfCentury : Option Int := none
  /-- The quarter, from 1. -/
  quarter : Option Int := none
  /-- The month, from 1. -/
  month : Option Int := none
  /-- The day of the month, from 1. -/
  day : Option Int := none
  /-- The number of Sundays so far in the year. -/
  weekFromSunday : Option Int := none
  /-- The number of Mondays so far in the year. -/
  weekFromMonday : Option Int := none
  /-- The number of the week. -/
  isoWeek : Option Int := none
  /-- The day of the week, where Monday is 0. -/
  weekday : Option Int := none
  /-- The day of the year, from 1. -/
  ordinal : Option Int := none
  /-- The half of the day, 0 or 1. -/
  half : Option Int := none
  /-- The hour within its half of the day, from 0. -/
  hourOfHalf : Option Int := none
  /-- The minute. -/
  minute : Option Int := none
  /-- The second; 60 is an inserted one. -/
  second : Option Int := none
  /-- The nanosecond. -/
  nanosecond : Option Int := none
  /-- The seconds since the beginning of 1970. -/
  timestamp : Option Int := none
  /-- The offset in seconds east of UTC. -/
  offset : Option Int := none

namespace DateFields

/-- A field that now has the value `new`, if it had no other value and the value is in range. -/
def agree (old : Option Int) (first last new : Int) : Except FieldError (Option Int) :=
  if new < first ∨ last < new then .error .outOfRange
  else if old = none ∨ old = some new then .ok (some new)
  else .error .impossible

/-- The least integer of 32 bits. -/
def least32 : Int := -Int.pow 2 31

/-- The greatest integer of 32 bits. -/
def greatest32 : Int := Int.pow 2 31 - 1

/-- Gives the hour of the day. -/
def setHour (f : DateFields) (hour : Int) : Except FieldError DateFields := do
  if hour < 0 ∨ 23 < hour then throw .outOfRange
  let half ← agree f.half 0 1 (hour / 12)
  let hourOfHalf ← agree f.hourOfHalf 0 11 (hour % 12)
  return { f with half, hourOfHalf }

/-- Gives a numeric field. -/
def set (f : DateFields) (field : NumericField) (n : Int) : Except FieldError DateFields :=
  match field with
  | .year => (agree f.year least32 greatest32 n).map fun year => { f with year }
  | .century => (agree f.century 0 greatest32 n).map fun century => { f with century }
  | .yearOfCentury =>
    (agree f.yearOfCentury 0 99 n).map fun yearOfCentury => { f with yearOfCentury }
  | .isoYear => (agree f.isoYear least32 greatest32 n).map fun isoYear => { f with isoYear }
  | .isoYearOfCentury =>
    (agree f.isoYearOfCentury 0 99 n).map fun isoYearOfCentury => { f with isoYearOfCentury }
  | .quarter => (agree f.quarter 1 4 n).map fun quarter => { f with quarter }
  | .month => (agree f.month 1 12 n).map fun month => { f with month }
  | .day => (agree f.day 1 31 n).map fun day => { f with day }
  | .weekFromSunday =>
    (agree f.weekFromSunday 0 53 n).map fun weekFromSunday => { f with weekFromSunday }
  | .weekFromMonday =>
    (agree f.weekFromMonday 0 53 n).map fun weekFromMonday => { f with weekFromMonday }
  | .isoWeek => (agree f.isoWeek 1 53 n).map fun isoWeek => { f with isoWeek }
  | .daysFromSunday =>
    if n < 0 ∨ 6 < n then .error .outOfRange
    else (agree f.weekday 0 6 ((n + 6) % 7)).map fun weekday => { f with weekday }
  | .weekdayFromMonday => (agree f.weekday 0 6 (n - 1)).map fun weekday => { f with weekday }
  | .ordinal => (agree f.ordinal 1 366 n).map fun ordinal => { f with ordinal }
  | .hour => f.setHour n
  | .hour12 =>
    if n < 1 ∨ 12 < n then .error .outOfRange
    else (agree f.hourOfHalf 0 11 (n % 12)).map fun hourOfHalf => { f with hourOfHalf }
  | .minute => (agree f.minute 0 59 n).map fun minute => { f with minute }
  | .second => (agree f.second 0 60 n).map fun second => { f with second }
  | .nanosecond => (agree f.nanosecond 0 999999999 n).map fun nanosecond => { f with nanosecond }
  | .timestamp =>
    (agree f.timestamp (-Int.pow 2 63) (Int.pow 2 63 - 1) n).map fun timestamp =>
      { f with timestamp }

/-- Gives the half of the day. -/
def setHalf (f : DateFields) (afternoon : Bool) : Except FieldError DateFields :=
  (agree f.half 0 1 (if afternoon then 1 else 0)).map fun half => { f with half }

/-- Gives the day of the week, where Monday is 0. -/
def setWeekday (f : DateFields) (weekday : Nat) : Except FieldError DateFields :=
  (agree f.weekday 0 6 weekday).map fun weekday => { f with weekday }

/-- Gives the offset. -/
def setOffset (f : DateFields) (offset : Int) : Except FieldError DateFields :=
  (agree f.offset least32 greatest32 offset).map fun offset => { f with offset }

/-- Whether a field is missing or has the given value. -/
def admits (field : Option Int) (n : Int) : Bool :=
  field.all (· == n)

/-- The year that its parts give. Two digits alone mean a year from 1970 to 2069. -/
def resolveYear (year century yearOfCentury : Option Int) : Except FieldError (Option Int) :=
  match year, century, yearOfCentury with
  | year, none, none => .ok year
  | some year, century, yearOfCentury =>
    if 0 ≤ year ∧ admits century (year / 100) ∧ admits yearOfCentury (year % 100) then
      .ok (some year)
    else .error .impossible
  | none, some century, some yearOfCentury =>
    if greatest32 < 100 * century + yearOfCentury then .error .outOfRange
    else .ok (some (100 * century + yearOfCentury))
  | none, none, some yearOfCentury =>
    .ok (some (yearOfCentury + if yearOfCentury < 70 then 2000 else 1900))
  | none, some _, none => .error .insufficient

/-- Whether the year, the month and the day of a date agree with the given ones. -/
def admitsMonth (f : DateFields) (date : Date) : Bool :=
  admits f.year date.year &&
    (if 0 ≤ date.year then
      admits f.century (date.year / 100) && admits f.yearOfCentury (date.year % 100)
    else f.century.isNone && f.yearOfCentury.isNone) &&
    admits f.month date.month && admits f.day date.day

/-- Whether the week of a date and its day of the week agree with the given ones. -/
def admitsWeek (f : DateFields) (date : Date) : Bool :=
  admits f.isoYear date.isoYear &&
    (if 0 ≤ date.isoYear then admits f.isoYearOfCentury (date.isoYear % 100)
    else f.isoYearOfCentury.isNone) &&
    admits f.isoWeek date.isoWeek && admits f.weekday date.weekday

/-- Whether the day of the year and the plain weeks of a date agree with the given ones. -/
def admitsOrdinal (f : DateFields) (date : Date) : Bool :=
  admits f.ordinal date.ordinal && admits f.weekFromSunday (date.weeksFrom 6) &&
    admits f.weekFromMonday (date.weeksFrom 0)

/-- The date of a day of the week in a plain week of a year, where weeks begin on `first`. -/
def ofPlainWeek (year week weekday : Int) (first : Nat) : Except FieldError Date :=
  match Date.ofOrdinal? year 1 with
  | none => .error .outOfRange
  | some newYear =>
    let firstStart : Int := 1 + (first + 7 - newYear.weekday) % 7
    let ordinal := firstStart + (week - 1) * 7 + (weekday + 7 - first) % 7
    if ordinal ≤ 0 then .error .impossible
    else
      match Date.ofOrdinal? year ordinal.toNat with
      | some date => .ok date
      | none => .error .impossible

/-- A result or, in place of none, the error that a number is out of range. -/
def inRange {α : Type} (result : Option α) : Except FieldError α :=
  match result with
  | some a => .ok a
  | none => .error .outOfRange

/-- The date that the fields determine, and whether the fields that did not determine it agree
with it. -/
def candidate (f : DateFields) (year isoYear : Option Int) : Except FieldError (Bool × Date) :=
  match year, f.month, f.day, f.ordinal with
  -- The most direct description counts; all others only have to agree with it.
  | some year, some month, some day, _ => do
    let date ← inRange (Date.ofParts? year month.toNat day.toNat)
    return (f.admitsWeek date && f.admitsOrdinal date, date)
  | some year, _, _, some ordinal => do
    let date ← inRange (Date.ofOrdinal? year ordinal.toNat)
    return (f.admitsMonth date && f.admitsWeek date && f.admitsOrdinal date, date)
  | _, _, _, _ =>
    match year, f.weekFromSunday, f.weekFromMonday, f.weekday with
    | some year, some week, _, some weekday => do
      let date ← ofPlainWeek year week weekday 6
      return (f.admitsMonth date && f.admitsWeek date && f.admitsOrdinal date, date)
    | some year, _, some week, some weekday => do
      let date ← ofPlainWeek year week weekday 0
      return (f.admitsMonth date && f.admitsWeek date && f.admitsOrdinal date, date)
    | _, _, _, _ =>
      match isoYear, f.isoWeek, f.weekday with
      | some year, some week, some weekday => do
        let date ← inRange (Date.ofIsoWeek? year week.toNat weekday.toNat)
        return (f.admitsMonth date && f.admitsOrdinal date, date)
      | _, _, _ => .error .insufficient

/-- The date that the fields give. -/
def date (f : DateFields) : Except FieldError Date := do
  let year ← resolveYear f.year f.century f.yearOfCentury
  let isoYear ← resolveYear f.isoYear none f.isoYearOfCentury
  let (agrees, date) ← f.candidate year isoYear
  if agrees && admits f.quarter date.quarter then return date else throw .impossible

/-- The second of the day and the nanosecond that the fields give. Seconds may be missing. -/
def time (f : DateFields) : Except FieldError (Nat × Nat) :=
  match f.half, f.hourOfHalf, f.minute with
  | some half, some hour, some minute =>
    let second := f.second.getD 0
    let inserted := second = 60
    let second := if inserted then 59 else second
    match f.second, f.nanosecond with
    | none, some _ => .error .insufficient
    | _, nanosecond =>
      .ok (((half * 12 + hour) * 3600 + minute * 60 + second).toNat,
        (nanosecond.getD 0).toNat + if inserted then 1000000000 else 0)
  | _, _, _ => .error .insufficient

/-- The date and time that the fields give where they hold a timestamp: the other fields must
agree with those of the timestamp at the offset. -/
def ofTimestamp (f : DateFields) (timestamp offset : Int) : Except FieldError LocalTime := do
  let shown : LocalTime := ⟨timestamp + offset, 0⟩
  if !shown.inCalendar then throw .outOfRange
  -- A timestamp counts no inserted seconds: one is shown as the second before the next minute.
  let inserted := f.second == some 60
  let shown : LocalTime :=
    if inserted && shown.second == 0 then ⟨shown.seconds - 1, 0⟩ else shown
  if inserted && shown.second ≠ 59 then throw .impossible
  let f ← if inserted then pure f else f.set .second shown.second
  let f ← f.set .year shown.date.year
  let f ← f.set .ordinal shown.date.ordinal
  let f ← f.set .hour shown.hour
  let f ← f.set .minute shown.minute
  let date ← f.date
  let (second, nanos) ← f.time
  return LocalTime.ofDate date second nanos

/-- The date and time that the fields give on clocks at an offset. -/
def localTime (f : DateFields) (offset : Int) : Except FieldError LocalTime :=
  match f.date, f.time, f.timestamp with
  | .ok date, .ok (second, nanos), timestamp =>
    let shown := LocalTime.ofDate date second nanos
    let seconds := shown.seconds - offset
    if admits timestamp seconds || (1000000000 ≤ nanos && admits timestamp (seconds + 1)) then
      .ok shown
    else .error .impossible
  | .error .outOfRange, _, _ => .error .outOfRange
  | _, .error .outOfRange, _ => .error .outOfRange
  | .error .impossible, _, _ => .error .impossible
  | _, .error .impossible, _ => .error .impossible
  | _, _, some timestamp => f.ofTimestamp timestamp offset
  | _, _, none => .error .insufficient

/-- The instant that the fields give, which takes an offset. A timestamp alone means UTC. -/
def instant? (f : DateFields) : Option Instant :=
  match f.offset, f.timestamp with
  | none, none => none
  | offset, _ =>
    let offset := offset.getD 0
    match f.localTime offset with
    | .ok t => if -86400 < offset ∧ offset < 86400 then t.toInstant? offset else none
    | .error _ => none

end DateFields

end AccessPolicy
