import AccessPolicy.Calendar.Scanner
import AccessPolicy.Json.Value
import AccessPolicy.Text.Blank

/-!
# Reading instants leniently

A value is an instant if it is a number of milliseconds or a text in one of several forms: the
strict form of a date and time, the same with a short offset, a date and time without an offset,
which is taken as UTC, a day in one of the common orders, which means its midnight, or a number
of milliseconds. The forms are tried in this order.
-/

namespace AccessPolicy

/-- The parts of a date with the year first. -/
def yearMonthDay (separator : List Directive) : List Directive :=
  [.zeros .year] ++ separator ++ [.zeros .month] ++ separator ++ [.zeros .day]

/-- The parts of a date with the day first. -/
def dayMonthYear (separator : Char) : List Directive :=
  [.zeros .day, .char separator, .zeros .month, .char separator, .zeros .year]

/-- The parts of a date and time with the given parts between them and at the end. -/
def dateAndTime (between : Directive) (tail : List Directive) : List Directive :=
  yearMonthDay [.char '-'] ++ [between] ++ Directive.clock .hour ++ tail

/-- The forms of a date and time with an offset that may lack its minutes. -/
def offsetForms : List (List Directive) :=
  [dateAndTime (.char 'T') [.named .lenientOffset],
    dateAndTime (.char 'T') [.named .fraction, .named .lenientOffset]]

/-- The forms of a date and time without an offset. -/
def plainForms : List (List Directive) :=
  [dateAndTime (.char 'T') [], dateAndTime (.char 'T') [.named .fraction],
    dateAndTime (.space [' ']) []]

/-- The forms of a day. -/
def dayForms : List (List Directive) :=
  [yearMonthDay [.char '-'], yearMonthDay [], yearMonthDay [.char '/'], dayMonthYear '-',
    dayMonthYear '/']

/-- The date and time that a text gives by a pattern, if it gives both. -/
def readLocal? (form : List Directive) (text : String) : Option LocalTime :=
  (DateFields.read? form text).bind fun f => (f.localTime 0).toOption

/-- The midnight of the day that a text gives by a pattern. -/
def readDay? (form : List Directive) (text : String) : Option LocalTime :=
  (DateFields.read? form text).bind fun f =>
    f.date.toOption.map fun date => LocalTime.ofDate date 0 0

/-- The instant that a text gives in the strict form. -/
def readStrict? (text : String) : Option Instant :=
  match scanStrict text.toList with
  | .ok (f, []) => f.instant?
  | _ => none

namespace Instant

/-- The instant that a text without white space at its ends denotes. -/
def read? (text : String) : Option Instant :=
  if text.isEmpty then none
  else
    (readStrict? text).or <|
    (offsetForms.findSome? fun form =>
      (DateFields.read? form text).bind DateFields.instant?).or <|
    (((plainForms.findSome? fun form => readLocal? form text).or
      (dayForms.findSome? fun form => readDay? form text)).bind fun t => t.toInstant? 0).or <|
    (readSigned? 64 text).bind ofMillis?

end Instant

namespace Value

/-- The instant that a value denotes. -/
def toInstant? : Value → Option Instant
  | .number n => Instant.ofMillis? n.toBinary64.toInt64
  | .string text => Instant.read? (Text.trimmed text)
  | _ => none

/-- The rendering of an instant as a value. -/
def ofInstant (i : Instant) : Value :=
  .string i.toText

end Value

end AccessPolicy
