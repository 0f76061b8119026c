import AccessPolicy.Calendar.Fields
import AccessPolicy.Calendar.Printer

/-!
# Reading dates by a pattern

Each part of a pattern takes its field off the front of the text. White space in a pattern stands
for any amount of white space, and numbers may have white space in front. A text is read only if
nothing of it is left over.
-/

namespace AccessPolicy

namespace Scan

/-- A number of at least `least` and at most `most` digits, below `2 ^ 63`. -/
def number (least most : Nat) (cs : List Char) : Except FieldError (Int × List Char) :=
  let digits := (cs.take most).takeWhile Char.isDigit
  if digits.length < least then .error .malformed
  else if Nat.pow 2 63 ≤ digitsValue digits then .error .outOfRange
  else .ok (digitsValue digits, cs.drop digits.length)

/-- A number with an optional sign; without one it has at most `most` digits. -/
def signedNumber (most : Nat) (cs : List Char) : Except FieldError (Int × List Char) :=
  match cs with
  | '-' :: rest => (number 1 rest.length rest).map fun (n, rest) => (-n, rest)
  | '+' :: rest => number 1 rest.length rest
  | cs => number 1 most cs

/-- The given text. -/
def exactly (text cs : List Char) : Except FieldError (Unit × List Char) :=
  match Text.dropFront? text cs with
  | some rest => .ok ((), rest)
  | none => .error .malformed

/-- Whether `cs` begins with a text in letters of either case, and what follows it. -/
def ignoringCase? : (text cs : List Char) → Option (List Char)
  | [], cs => some cs
  | _ :: _, [] => none
  | t :: text, c :: cs => if t.toLower = c.toLower then ignoringCase? text cs else none

/-- The index of the name that the text begins with, at least with its first three letters. If
`whole`, the rest of the name is taken too where it follows. -/
def nameIn (names : List String) (whole : Bool) (cs : List Char) :
    Except FieldError (Nat × List Char) :=
  match names.zipIdx.findSome? fun (name, i) =>
      (ignoringCase? (name.toList.take 3) cs).map fun rest =>
        (i, if whole then (ignoringCase? (name.toList.drop 3) rest).getD rest else rest) with
  | some found => .ok found
  | none => .error .malformed

/-- The places of a second: up to nine digits count, and further ones are dropped. -/
def decimals (cs : List Char) : Except FieldError (Int × List Char) :=
  let digits := cs.takeWhile Char.isDigit
  if digits.isEmpty then .error .malformed
  else
    let kept := digits.take 9
    .ok (digitsValue kept * Nat.pow 10 (9 - kept.length), cs.drop digits.length)

/-- Exactly the given number of places of a second. -/
def someDecimals (count : Nat) (cs : List Char) : Except FieldError (Int × List Char) :=
  (number count count cs).map fun (n, rest) => (n * Nat.pow 10 (9 - count), rest)

/-- What separates the hours from the minutes of an offset. -/
inductive OffsetSeparator where
  /-- Exactly one colon. -/
  | colon
  /-- Any colons and white space, or nothing. -/
  | any

/-- Drops the separator. -/
def OffsetSeparator.skip (separator : OffsetSeparator) (cs : List Char) :
    Except FieldError (Unit × List Char) :=
  match separator with
  | .colon => exactly [':'] cs
  | .any => .ok ((), cs.dropWhile fun c => c = ':' || Text.isBlank c)

/-- An offset: a sign, two digits of hours and two of minutes. The letter `Z` may stand for zero
if `zulu`, and the minutes may be missing at the end of the text if `hoursAlone`. -/
def offsetSeconds (separator : OffsetSeparator) (zulu hoursAlone : Bool) (cs : List Char) :
    Except FieldError (Int × List Char) :=
  match cs with
  | [] => .error .malformed
  | c :: rest =>
    if zulu && (c = 'Z' || c = 'z') then .ok (0, rest)
    else if c = '+' ∨ c = '-' ∨ c = '−' then do
      let sign : Int := if c = '+' then 1 else -1
      let (hours, rest) ← number 2 2 rest
      let (_, rest) ← separator.skip rest
      if rest.isEmpty && hoursAlone then return (sign * hours * 3600, rest)
      let (minutes, rest) ← number 2 2 rest
      if 60 ≤ minutes then throw .outOfRange
      return (sign * (hours * 3600 + minutes * 60), rest)
    else .error .malformed

end Scan

open Scan in
/-- Reads a numeric field. -/
def NumericField.scan (field : NumericField) (f : DateFields) (cs : List Char) :
    Except FieldError (DateFields × List Char) := do
  let cs := Text.trimStart cs
  let (n, rest) ← match field with
    | .year => signedNumber 4 cs
    | .isoYear => signedNumber 4 cs
    | .quarter => number 1 1 cs
    | .daysFromSunday => number 1 1 cs
    | .weekdayFromMonday => number 1 1 cs
    | .ordinal => number 1 3 cs
    | .nanosecond => number 1 9 cs
    | .timestamp => number 1 cs.length cs
    | _ => number 1 2 cs
  let f ← f.set field n
  return (f, rest)

open Scan in
/-- Reads the half of the day. -/
def scanHalf (f : DateFields) (cs : List Char) : Except FieldError (DateFields × List Char) :=
  match ignoringCase? ['a', 'm'] cs, ignoringCase? ['p', 'm'] cs with
  | some rest, _ => (f.setHalf false).map fun f => (f, rest)
  | none, some rest => (f.setHalf true).map fun f => (f, rest)
  | none, none => .error .malformed

open Scan in
/-- Reads a field that is no number, other than a whole date and time. -/
def NamedField.scan (field : NamedField) (f : DateFields) (cs : List Char) :
    Except FieldError (DateFields × List Char) := do
  match field with
  | .shortMonth =>
    let (i, rest) ← nameIn monthNames false cs
    return (← f.set .month (i + 1), rest)
  | .longMonth =>
    let (i, rest) ← nameIn monthNames true cs
    return (← f.set .month (i + 1), rest)
  | .shortWeekday =>
    let (i, rest) ← nameIn weekdayNames false cs
    return (← f.setWeekday i, rest)
  | .longWeekday =>
    let (i, rest) ← nameIn weekdayNames true cs
    return (← f.setWeekday i, rest)
  | .lowerHalf => scanHalf f cs
  | .upperHalf => scanHalf f cs
  | .fraction =>
    match cs with
    | '.' :: rest =>
      let (n, rest) ← decimals rest
      return (← f.set .nanosecond n, rest)
    | _ => return (f, cs)
  | .places count =>
    match cs with
    | '.' :: rest =>
      let (n, rest) ← someDecimals count rest
      return (← f.set .nanosecond n, rest)
    | _ => return (f, cs)
  | .barePlaces count =>
    let (n, rest) ← someDecimals count cs
    return (← f.set .nanosecond n, rest)
  | .zoneName => return (f, cs.dropWhile fun c => !Text.isBlank c)
  | .offset _ =>
    let (seconds, rest) ← offsetSeconds .any false false (Text.trimStart cs)
    return (← f.setOffset seconds, rest)
  | .lenientOffset =>
    let (seconds, rest) ← offsetSeconds .any true true (Text.trimStart cs)
    return (← f.setOffset seconds, rest)
  | .dateTime => throw .malformed

open Scan in
/-- Reads a part of a pattern other than a whole date and time. -/
def Directive.scanPlain (f : DateFields) (cs : List Char) :
    Directive → Except FieldError (DateFields × List Char)
  | .literal text => (exactly text cs).map fun (_, rest) => (f, rest)
  | .space _ => .ok (f, Text.trimStart cs)
  | .numeric field _ => field.scan f cs
  | .named field => field.scan f cs

/-- Reads the parts of a pattern one after the other. -/
def scanAll
    (scan : DateFields → List Char → Directive → Except FieldError (DateFields × List Char)) :
    DateFields → List Char → List Directive → Except FieldError (DateFields × List Char)
  | f, cs, [] => .ok (f, cs)
  | f, cs, directive :: rest => do
    let (f, cs) ← scan f cs directive
    scanAll scan f cs rest

open Scan in
/-- Reads a whole date and time with white space between its parts and an offset at its end,
which may be the word `UTC` or the letter `Z`. -/
def scanDateTime (f : DateFields) (cs : List Char) :
    Except FieldError (DateFields × List Char) := do
  let gap := Directive.space []
  let (f, cs) ← scanAll Directive.scanPlain f cs
    [.zeros .year, gap, .char '-', .zeros .month, gap, .char '-', .zeros .day]
  match cs with
  | c :: cs =>
    if c ≠ 'T' ∧ c ≠ 't' ∧ c ≠ ' ' then throw .malformed
    let (f, cs) ← scanAll Directive.scanPlain f cs
      [.zeros .hour, gap, .char ':', .zeros .minute, gap, .char ':', .zeros .second,
       .named .fraction, gap]
    match ignoringCase? ['u', 't', 'c'] cs with
    | some rest => return (← f.setOffset 0, rest)
    | none =>
      let (seconds, rest) ← offsetSeconds .any true false cs
      return (← f.setOffset seconds, rest)
  | [] => throw .malformed

/-- Reads a part of a pattern. -/
def Directive.scan (f : DateFields) (cs : List Char) :
    Directive → Except FieldError (DateFields × List Char)
  | .named .dateTime => scanDateTime f cs
  | directive => directive.scanPlain f cs

/-- The fields that a text gives by a pattern; none if the text does not have its form. -/
def DateFields.read? (directives : List Directive) (text : String) : Option DateFields :=
  match scanAll Directive.scan {} text.toList directives with
  | .ok (f, []) => some f
  | _ => none

/-- The local time of a text by a pattern. A date without a time of day means midnight. -/
def LocalTime.read? (directives : List Directive) (text : String) : Option LocalTime :=
  (DateFields.read? directives text).bind fun f =>
    match f.localTime 0 with
    | .ok t => some t
    | .error _ => f.date.toOption.map fun date => LocalTime.ofDate date 0 0

open Scan in
/-- Reads the strict form of a date and time: fixed widths, and an offset with a colon. -/
def scanStrict (cs : List Char) : Except FieldError (DateFields × List Char) := do
  let f : DateFields := {}
  let (n, cs) ← number 4 4 cs
  let f ← f.set .year n
  let (_, cs) ← exactly ['-'] cs
  let (n, cs) ← number 2 2 cs
  let f ← f.set .month n
  let (_, cs) ← exactly ['-'] cs
  let (n, cs) ← number 2 2 cs
  let f ← f.set .day n
  let cs ← match cs with
    | c :: cs => if c = 'T' ∨ c = 't' ∨ c = ' ' then pure cs else throw FieldError.malformed
    | [] => throw FieldError.malformed
  let (n, cs) ← number 2 2 cs
  let f ← f.set .hour n
  let (_, cs) ← exactly [':'] cs
  let (n, cs) ← number 2 2 cs
  let f ← f.set .minute n
  let (_, cs) ← exactly [':'] cs
  let (n, cs) ← number 2 2 cs
  let f ← f.set .second n
  let (f, cs) ← NamedField.scan .fraction f cs
  let (seconds, cs) ← offsetSeconds .colon true false cs
  -- An offset is less than a day, and 23:59 is the largest that can be written.
  if 86340 < seconds.natAbs then throw .outOfRange
  return (← f.setOffset seconds, cs)

end AccessPolicy
