import AccessPolicy.Calendar.Directive
import AccessPolicy.Calendar.Instant

/-!
# Writing dates by a pattern

The text of an instant at an offset, part by part. Every pattern without the lenient offset can
be written.
-/

namespace AccessPolicy

/-- The names of the months. -/
def monthNames : List String :=
  ["January", "February", "March", "April", "May", "June", "July", "August", "September",
   "October", "November", "December"]

/-- The names of the days of the week, from Monday. -/
def weekdayNames : List String :=
  ["Monday", "Tuesday", "Wednesday", "Thursday", "Friday", "Saturday", "Sunday"]

/-- A number below 256 in two places. The tens of a number of three digits take one character,
the one that follows the digit nine by as many places. -/
def twoPlaces (padding : Padding) (n : Nat) : List Char :=
  let ones := Nat.digitChar (n % 10)
  match padding with
  | .none => if n / 10 = 0 then [ones] else [Char.ofNat ('0'.toNat + n / 10), ones]
  | .zeros => [Char.ofNat ('0'.toNat + n / 10), ones]
  | .spaces => [if n / 10 = 0 then ' ' else Char.ofNat ('0'.toNat + n / 10), ones]

/-- A number filled up to a width, which the sign counts toward. -/
def wide (width : Nat) (padding : Padding) (alwaysSign : Bool) (n : Int) : List Char :=
  let sign := if n < 0 then ['-'] else if alwaysSign then ['+'] else []
  let digits := Nat.toDigits 10 n.natAbs
  let missing := width - (sign.length + digits.length)
  match padding with
  | .none => sign ++ digits
  | .zeros => sign ++ List.replicate missing '0' ++ digits
  | .spaces => List.replicate missing ' ' ++ sign ++ digits

/-- A year in at least four places, with a sign if it has fewer or more digits or is negative. -/
def wideYear (padding : Padding) (year : Int) : List Char :=
  let plain := 0 ≤ year ∧ year < 10000
  if plain then wide 4 padding false year else wide 5 padding true year

/-- The number of an hour on a clock of twelve hours. -/
def hourOfHalf (hour : Nat) : Nat :=
  if hour % 12 = 0 then 12 else hour % 12

/-- The text of a numeric field. -/
def NumericField.write (field : NumericField) (padding : Padding) (i : Instant) (t : LocalTime) :
    List Char :=
  let date := t.date
  let two := twoPlaces padding
  match field with
  | .year => wideYear padding date.year
  | .century => two (date.year / 100 % 256).toNat
  | .yearOfCentury => two (date.year % 100).toNat
  | .isoYear => wideYear padding date.isoYear
  | .isoYearOfCentury => two (date.isoYear % 100).toNat
  | .quarter => [Nat.digitChar date.quarter]
  | .month => two date.month
  | .day => two date.day
  | .weekFromSunday => two (date.weeksFrom 6)
  | .weekFromMonday => two (date.weeksFrom 0)
  | .isoWeek => two date.isoWeek
  | .daysFromSunday => [Nat.digitChar ((date.weekday + 1) % 7)]
  | .weekdayFromMonday => [Nat.digitChar (date.weekday + 1)]
  | .ordinal => wide 3 padding false date.ordinal
  | .hour => two t.hour
  | .hour12 => two (hourOfHalf t.hour)
  | .minute => two t.minute
  | .second => two (t.second + t.nanos / 1000000000)
  | .nanosecond => wide 9 padding false (t.nanos % 1000000000 : Nat)
  | .timestamp => wide 9 padding false i.seconds

/-- The places of a second that differ from zero, in groups of three after a point. -/
def fractionText (nanos : Nat) : List Char :=
  let nanos := nanos % 1000000000
  if nanos = 0 then []
  else if nanos % 1000000 = 0 then '.' :: padded 3 (nanos / 1000000)
  else if nanos % 1000 = 0 then '.' :: padded 6 (nanos / 1000)
  else '.' :: padded 9 nanos

/-- The first places of a second. -/
def placesText (count nanos : Nat) : List Char :=
  (padded 9 (nanos % 1000000000)).take count

/-- An offset, in the given form. -/
def OffsetForm.write (form : OffsetForm) (offset : Int) : List Char :=
  let size := offset.natAbs
  let hours := (if offset < 0 then '-' else '+') :: padded 2 (size / 3600)
  let minutes := padded 2 (size / 60 % 60)
  match form with
  | .plain => hours ++ minutes
  | .colon => hours ++ [':'] ++ minutes
  | .seconds => hours ++ [':'] ++ minutes ++ [':'] ++ padded 2 (size % 60)
  | .hours => hours

/-- The text of a field that is not a number. -/
def NamedField.write? (field : NamedField) (t : LocalTime) (offset : Int) : Option (List Char) :=
  let date := t.date
  let month := ((monthNames[date.month - 1]?).getD "").toList
  let weekday := ((weekdayNames[date.weekday]?).getD "").toList
  match field with
  | .shortMonth => some (month.take 3)
  | .longMonth => some month
  | .shortWeekday => some (weekday.take 3)
  | .longWeekday => some weekday
  | .lowerHalf => some (if t.hour < 12 then ['a', 'm'] else ['p', 'm'])
  | .upperHalf => some (if t.hour < 12 then ['A', 'M'] else ['P', 'M'])
  | .fraction => some (fractionText t.nanos)
  | .places count => some ('.' :: placesText count t.nanos)
  | .barePlaces count => some (placesText count t.nanos)
  | .zoneName => some (OffsetForm.colon.write offset)
  | .offset form => some (form.write offset)
  | .lenientOffset => none
  | .dateTime => some (t.toText ++ fractionText t.nanos ++ OffsetForm.colon.write offset)

/-- The text of one part of a pattern. -/
def Directive.write? (i : Instant) (offset : Int) : Directive → Option (List Char)
  | .literal text => some text
  | .space text => some text
  | .numeric field padding => some (field.write padding i (i.atOffset offset))
  | .named field => field.write? (i.atOffset offset) offset

/-- The text of an instant at an offset by a pattern. -/
def Instant.format? (directives : List Directive) (i : Instant) (offset : Int) : Option String :=
  (directives.mapM (Directive.write? i offset)).map fun texts => String.ofList texts.flatten

end AccessPolicy
