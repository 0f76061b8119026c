/-!
# Dates of the proleptic Gregorian calendar

Dates by year, month and day, and by the number of days since 1 January of the year 0. The
calendar that dates must lie in runs from the year -262143 to the year 262142.
-/

namespace AccessPolicy

/-- The first year of the calendar. -/
def firstYear : Int := -262143

/-- The last year of the calendar. -/
def lastYear : Int := 262142

/-- Whether a year has a 29 February. -/
def isLeapYear (year : Int) : Bool :=
  year % 4 = 0 && (year % 100 ≠ 0 || year % 400 = 0)

/-- The number of days from 1 January of the year 0 to 1 January of the given year. -/
def daysBeforeYear (year : Int) : Int :=
  365 * year + (year + 3) / 4 - (year + 99) / 100 + (year + 399) / 400

/-- The number of days of a year. -/
def daysOfYear (year : Int) : Nat :=
  if isLeapYear year then 366 else 365

/-- The lengths of the months of a year, in order. -/
def monthLengths (year : Int) : List Nat :=
  [31, if isLeapYear year then 29 else 28, 31, 30, 31, 30, 31, 31, 30, 31, 30, 31]

/-- The number of days of a month, which counts from 1. -/
def daysOfMonth (year : Int) (month : Nat) : Nat :=
  (monthLengths year)[month - 1]?.getD 0

/-- The number of days of a year before the first of a month. -/
def daysBeforeMonth (year : Int) (month : Nat) : Nat :=
  ((monthLengths year).take (month - 1)).foldr (· + ·) 0

/-- The year that holds a day. A year takes 365.2425 days on average, so the estimate is off by
one year at most. -/
def yearOfDay (day : Int) : Int :=
  let guess := 400 * day / 146097
  if day < daysBeforeYear guess then guess - 1
  else if daysBeforeYear (guess + 1) ≤ day then guess + 1
  else guess

/-- The month and the day of the month that lie `rest` days after the first of `month`. -/
def monthAndDay (month rest : Nat) : List Nat → Nat × Nat
  | [] => (month, rest + 1)
  | length :: lengths =>
    if rest < length then (month, rest + 1) else monthAndDay (month + 1) (rest - length) lengths

/-- A date. -/
structure Date where
  /-- The year; the year 0 comes before the year 1. -/
  year : Int
  /-- The month, from 1. -/
  month : Nat
  /-- The day of the month, from 1. -/
  day : Nat
deriving DecidableEq

namespace Date

/-- The date of a day. -/
def ofDayNumber (day : Int) : Date :=
  let year := yearOfDay day
  let (month, day) := monthAndDay 1 (day - daysBeforeYear year).toNat (monthLengths year)
  ⟨year, month, day⟩

/-- The number of days since 1 January of the year 0. -/
def dayNumber (date : Date) : Int :=
  daysBeforeYear date.year + daysBeforeMonth date.year date.month + date.day - 1

/-- Whether the date exists in the calendar. -/
def inCalendar (date : Date) : Bool :=
  firstYear ≤ date.year && date.year ≤ lastYear && 1 ≤ date.month && date.month ≤ 12 &&
    1 ≤ date.day && date.day ≤ daysOfMonth date.year date.month

/-- The date of a year, a month and a day, if it exists. -/
def ofParts? (year : Int) (month day : Nat) : Option Date :=
  let date : Date := ⟨year, month, day⟩
  if date.inCalendar then some date else none

/-- The date of a day, if it lies in the calendar. -/
def ofDayNumber? (day : Int) : Option Date :=
  let date := ofDayNumber day
  if date.inCalendar then some date else none

/-- The day of the year, from 1. -/
def ordinal (date : Date) : Nat :=
  daysBeforeMonth date.year date.month + date.day

/-- The date of a day of a year, if it exists. -/
def ofOrdinal? (year : Int) (ordinal : Nat) : Option Date :=
  if 1 ≤ ordinal ∧ ordinal ≤ daysOfYear year then
    ofDayNumber? (daysBeforeYear year + ordinal - 1)
  else none

/-- The day of the week of a day, where Monday is 0. -/
def weekdayOfDay (day : Int) : Nat :=
  ((day + 5) % 7).toNat

/-- The day of the week, where Monday is 0. -/
def weekday (date : Date) : Nat :=
  weekdayOfDay date.dayNumber

/-- The quarter of the year, from 1. -/
def quarter (date : Date) : Nat :=
  (date.month + 2) / 3

/-- The number of weeks of the year that have begun, where weeks begin on the given day. -/
def weeksFrom (first : Nat) (date : Date) : Nat :=
  (date.ordinal + 6 - (date.weekday + 7 - first) % 7) / 7

/-- The day number of the Thursday of the same week, whose year is that of the week. -/
def thursday (date : Date) : Int :=
  date.dayNumber - date.weekday + 3

/-- The year that the week of the date belongs to. -/
def isoYear (date : Date) : Int :=
  yearOfDay date.thursday

/-- The number of the week of the date within its year, from 1. -/
def isoWeek (date : Date) : Nat :=
  ((date.thursday - daysBeforeYear date.isoYear) / 7).toNat + 1

/-- The day number of the Monday of the first week of a year, which holds 4 January. -/
def firstMonday (year : Int) : Int :=
  let fourth := daysBeforeYear year + 3
  fourth - weekdayOfDay fourth

/-- The date of a day of a numbered week, if it exists. -/
def ofIsoWeek? (year : Int) (week weekday : Nat) : Option Date :=
  -- The last week of a year begins before the first Monday of the next year.
  let monday := firstMonday year + 7 * ((week : Int) - 1)
  if 1 ≤ week ∧ monday < firstMonday (year + 1) then ofDayNumber? (monday + weekday) else none

end Date

end AccessPolicy
