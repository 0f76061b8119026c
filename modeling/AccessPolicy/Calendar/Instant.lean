import AccessPolicy.Calendar.Date
import AccessPolicy.Number.Whole

/-!
# Instants and local times

An instant is a number of seconds since the beginning of 1970 in UTC with a number of
nanoseconds, at a date of the calendar. A second that was inserted at the end of a minute is the
second before it with a thousand million nanoseconds or more. A local time is what clocks at some
offset from UTC show, and may leave the calendar.
-/

namespace AccessPolicy

/-- The day number of 1 January 1970. -/
def epochDay : Int := 719528

/-- The first second of the calendar. -/
def calendarStart : Int := (daysBeforeYear firstYear - epochDay) * 86400

/-- The first second after the calendar. -/
def calendarEnd : Int := (daysBeforeYear (lastYear + 1) - epochDay) * 86400

/-- A point in time. -/
structure Instant where
  /-- The whole seconds since the beginning of 1970. -/
  seconds : Int
  /-- The nanoseconds on top, a thousand million or more of them in an inserted second. -/
  nanos : Nat
  /-- The instant lies in the calendar. -/
  inCalendar : calendarStart ≤ seconds ∧ seconds < calendarEnd
  /-- There are fewer nanoseconds than two seconds have. -/
  nanos_lt : nanos < 2000000000
deriving DecidableEq

/-- What clocks at some offset from UTC show. -/
structure LocalTime where
  /-- The seconds since the beginning of 1970 on those clocks. -/
  seconds : Int
  /-- The nanoseconds on top. -/
  nanos : Nat
deriving DecidableEq

namespace Instant

/-- The instant of a number of seconds and nanoseconds, if it lies in the calendar. -/
def ofUnix? (seconds : Int) (nanos : Nat) : Option Instant :=
  if h : (calendarStart ≤ seconds ∧ seconds < calendarEnd) ∧ nanos < 2000000000 then
    some ⟨seconds, nanos, h.1, h.2⟩
  else none

/-- The instant of a number of milliseconds, if it lies in the calendar. -/
def ofMillis? (millis : Int) : Option Instant :=
  ofUnix? (millis / 1000) ((millis % 1000).toNat * 1000000)

/-- The whole milliseconds since the beginning of 1970. -/
def toMillis (i : Instant) : Int :=
  i.seconds * 1000 + (i.nanos / 1000000 : Nat)

/-- The order in time. -/
def compare (i j : Instant) : Ordering :=
  (Ord.compare i.seconds j.seconds).then (Ord.compare i.nanos j.nanos)

/-- What clocks at an offset show, given in seconds east of UTC. -/
def atOffset (i : Instant) (offset : Int) : LocalTime :=
  ⟨i.seconds + offset, i.nanos⟩

/-- The instant that lies the given number of seconds later, if it lies in the calendar. An
inserted second counts once when it is left. -/
def shift? (i : Instant) (seconds : Int) : Option Instant :=
  if i.nanos < 1000000000 ∨ seconds = 0 then ofUnix? (i.seconds + seconds) i.nanos
  -- Going forward, the inserted second ends where the next second begins.
  else if 0 < seconds then ofUnix? (i.seconds + seconds) (i.nanos - 1000000000)
  else ofUnix? (i.seconds + 1 + seconds) (i.nanos - 1000000000)

/-- The nanoseconds from `j` to `i`. An inserted second counts by the time of day alone: as if it
lay behind the other time where it comes first, and ahead of it where it comes last. -/
def nanosSince (i j : Instant) : Int :=
  let ofDay := i.seconds % 86400
  let otherOfDay := j.seconds % 86400
  let inserted : Int :=
    if otherOfDay < ofDay && 1000000000 ≤ j.nanos then 1
    else if ofDay < otherOfDay && 1000000000 ≤ i.nanos then -1
    else 0
  (i.seconds - j.seconds + inserted) * 1000000000 + ((i.nanos : Int) - j.nanos)

end Instant

namespace LocalTime

/-- The local time of a date and a time of day. -/
def ofDate (date : Date) (secondOfDay nanos : Nat) : LocalTime :=
  ⟨(date.dayNumber - epochDay) * 86400 + secondOfDay, nanos⟩

/-- The day that the clocks show. -/
def dayNumber (t : LocalTime) : Int :=
  t.seconds / 86400 + epochDay

/-- The date that the clocks show. -/
def date (t : LocalTime) : Date :=
  Date.ofDayNumber t.dayNumber

/-- The seconds since midnight. -/
def secondOfDay (t : LocalTime) : Nat :=
  (t.seconds % 86400).toNat

/-- The hour of the day. -/
def hour (t : LocalTime) : Nat :=
  t.secondOfDay / 3600

/-- The minute of the hour. -/
def minute (t : LocalTime) : Nat :=
  t.secondOfDay / 60 % 60

/-- The second of the minute, without an inserted one. -/
def second (t : LocalTime) : Nat :=
  t.secondOfDay % 60

/-- Whether the time lies in the calendar. -/
def inCalendar (t : LocalTime) : Bool :=
  calendarStart ≤ t.seconds && t.seconds < calendarEnd

/-- The instant at which clocks at an offset show this time, if it lies in the calendar. -/
def toInstant? (t : LocalTime) (offset : Int) : Option Instant :=
  Instant.ofUnix? (t.seconds - offset) t.nanos

end LocalTime

/-- An integer with its sign in front and zeros up to the given number of digits. -/
def signedPadded (width : Nat) (n : Int) : List Char :=
  (if n < 0 then '-' else '+') :: padded width n.natAbs

/-- A year: four digits, or a sign and at least four digits if it does not have four. -/
def yearText (year : Int) : List Char :=
  if 0 ≤ year ∧ year ≤ 9999 then padded 4 year.toNat else signedPadded 4 year

/-- The date and the time of day to the second, an inserted second as the sixtieth. -/
def LocalTime.toText (t : LocalTime) : List Char :=
  let date := t.date
  yearText date.year ++ ['-'] ++ padded 2 date.month ++ ['-'] ++ padded 2 date.day ++ ['T'] ++
    padded 2 t.hour ++ [':'] ++ padded 2 t.minute ++ [':'] ++
    padded 2 (t.second + t.nanos / 1000000000)

/-- The rendering of an instant: its date and time in UTC with three places of a second. -/
def Instant.toText (i : Instant) : String :=
  String.ofList
    ((i.atOffset 0).toText ++ ['.'] ++ padded 3 (i.nanos % 1000000000 / 1000000) ++ ['Z'])

end AccessPolicy
