import AccessPolicy.Calendar.Offset
import AccessPolicy.Calendar.Printer
import AccessPolicy.Calendar.Reading
import AccessPolicy.Calendar.Span
import AccessPolicy.Calendar.Steps
import AccessPolicy.Expression.Pipe
import AccessPolicy.Json.Coercion

/-!
# Pipes on dates

Formatting and reading dates by a pattern, date arithmetic, and spans of time. A value is a date
if it denotes an instant; most pipes let other values pass.
-/

namespace AccessPolicy.Standard

/-- Where an offset from UTC comes from. -/
inductive Zone where
  /-- It is given. -/
  | fixed (offset : Int)
  /-- It is the text of a variable. -/
  | stored (path : String)
deriving DecidableEq

namespace Zone

/-- The zone of an argument: a dollar sign with a path, or an offset. Anything else means UTC. -/
def ofArgument (arg : String) : Zone :=
  match Text.trim arg.toList with
  | '$' :: path => .stored (String.ofList (Text.trim path))
  | _ => .fixed ((readOffset? arg).getD 0)

/-- The zone of an argument, and UTC without one. -/
def ofOptional (arg : Option String) : Zone :=
  (arg.map ofArgument).getD (.fixed 0)

/-- The offset of a zone. A variable that holds none means UTC. -/
def offset (scope : Scope) : Zone → Int
  | .fixed offset => offset
  | .stored path =>
    (((scope.lookup? path).bind Value.toText?).bind readOffset?).getD 0

end Zone

/-- A date pattern, if it is well formed. -/
def readPattern (pipe pattern : String) : Except ExprError (List Directive) :=
  match Directive.readAll? pattern with
  | some directives => .ok directives
  | none => .error (.invalidPipeArgs pipe ("invalid date pattern '" ++ pattern ++ "'"))

/-- The value of an instant, which is null if there is none. -/
def optionalInstant (i : Option Instant) : Value :=
  (i.map Value.ofInstant).getD .null

/-- The transformation of dates; other values stay as they are. -/
def onDate (f : Scope → Instant → Value) : Transform where
  value scope v :=
    match v.toInstant? with
    | some i => f scope i
    | none => v

/-- The pattern of dates that are formatted without one. -/
def defaultPattern : List Directive :=
  yearMonthDay [.char '-']

/-- Formats dates by a pattern in a zone. -/
def formatDatePipe : Pipe := fun args => do
  let directives ← match args.head? with
    | some pattern => readPattern "formatDate" pattern
    | none => pure defaultPattern
  let zone := Zone.ofOptional args[1]?
  return onDate fun scope i =>
    ((i.format? directives (zone.offset scope)).map .string).getD .null

/-- How texts are read as dates. -/
inductive DateReading where
  /-- In any of the common forms. -/
  | lenient
  /-- In any of the common forms, with milliseconds as the result. -/
  | millis
  /-- By a pattern. -/
  | pattern (directives : List Directive)

/-- Reads dates. -/
def parseDatePipe : Pipe := fun args => do
  let reading ← match args.head? with
    | none => pure DateReading.lenient
    | some "" => pure DateReading.millis
    | some pattern => (readPattern "parseDate" pattern).map DateReading.pattern
  let zone := Zone.ofOptional args[1]?
  return {
    value := fun scope v =>
      match reading with
      | .lenient => optionalInstant v.toInstant?
      | .millis => (v.toInstant?.map fun i => .ofInt i.toMillis).getD .null
      | .pattern directives =>
        optionalInstant <| do
          let text ← v.toText?
          let t ← LocalTime.read? directives (Text.trimmed text)
          t.toInstant? (zone.offset scope) }

/-- Where date arithmetic starts, and its steps: `now` stands for the value itself, and a date
may stand in front of two bars or alone. -/
def readDateMath (math : String) : Except ExprError (Option Instant × List DateStep) := do
  let invalid (reason : String) : ExprError := .invalidPipeArgs "dateMath" reason
  let (anchor, steps) ← match Text.dropFront? "now".toList math.toList with
    | some rest => pure (none, rest)
    | none =>
      let (date, rest) := (Text.cutAt? ['|', '|'] math.toList).getD (math.toList, [])
      match Instant.read? (String.ofList (Text.trim date)) with
      | some i => pure (some i, rest)
      | none => throw (invalid ("bad date '" ++ String.ofList date ++ "'"))
  match DateStep.readAll steps with
  | .ok dateSteps => return (anchor, dateSteps)
  | .error e => throw (invalid (e.message (String.ofList steps)))

/-- Date arithmetic on a value or on a given date. The result is null where a step leads nowhere.
The two reasons for that are not told apart here: a step that leaves the calendar gives null in the
program too, but a rounding that starts outside of it (`StepError.startsOutside`) stops the program
without a value. -/
def dateMathPipe : Pipe := fun args =>
  match args.head? with
  | none => .ok (.pure id)
  | some math => do
    let (anchor, steps) ← readDateMath (Text.trimmed math)
    let zone := Zone.ofOptional args[1]?
    return {
      value := fun scope v =>
        match anchor.or v.toInstant? with
        | some start =>
          optionalInstant (start.walk (zone.offset scope) steps).toOption
        | none => v }

/-- Where an amount comes from. -/
inductive Amount where
  /-- It is given. -/
  | fixed (amount : Int)
  /-- It is the number of a variable. -/
  | stored (path : String)
deriving DecidableEq

namespace Amount

/-- The amount of an argument: a dollar sign with a path, or an integer. -/
def ofArgument (arg : String) : Except ExprError Amount :=
  match Text.trim arg.toList with
  | '$' :: path => .ok (.stored (String.ofList (Text.trim path)))
  | digits =>
    match readSigned? 64 (String.ofList digits) with
    | some n => .ok (.fixed n)
    | none => .error (.invalidPipeArgs "datePlus" ("'" ++ arg ++ "' is not an integer"))

/-- The amount: that of the first variable with a number at the path, within `variables`, within
`fieldValues` or on its own, and zero if there is none. -/
def resolve (scope : Scope) : Amount → Int
  | .fixed amount => amount
  | .stored path =>
    let number? (path : String) : Option Binary64 :=
      (scope.lookup? path).bind Value.toNumber?
    ((["variables." ++ path, "fieldValues." ++ path, path].findSome? number?).map
      Binary64.toInt64).getD 0

end Amount

/-- The unit of an argument that is a single letter. -/
def readUnit? (arg : String) : Option DateUnit :=
  match Text.trim arg.toList with
  | [c] => DateUnit.ofChar? c
  | _ => none

/-- Adds an amount of a unit to dates, one day if neither is given. An argument that is no unit
leaves the date as it is. -/
def datePlusPipe : Pipe := fun args => do
  let amount ← match args.head? with
    | some arg => Amount.ofArgument arg
    | none => pure (.fixed 1)
  let unit := match args[1]? with
    | some arg => readUnit? arg
    | none => some .day
  let zone := Zone.ofOptional args[2]?
  return onDate fun scope i =>
    match unit with
    | some unit => optionalInstant (unit.add? (amount.resolve scope) (zone.offset scope) i)
    | none => .ofInstant i

/-- The distance of dates from the present in words. -/
def fromNowPipe : Pipe :=
  .optional fun arg =>
    let bare := (arg.map fun flag =>
      Text.equalIgnoringAsciiCase (Text.trimmed flag) "true").getD false
    onDate fun scope i =>
      .string (humanize ((i.nanosSince scope.now).tdiv 1000000) bare)

/-- The nanoseconds of the units that time since a date is counted in, where the day stands for
all but hours, minutes and seconds. -/
def elapsedUnit : Option DateUnit → Int
  | some .hour => 3600000000000
  | some .minute => 60000000000
  | some .second => 1000000000
  | _ => 86400000000000

/-- The number of whole units since dates. -/
def fromNowUnitsPipe : Pipe :=
  .optional fun arg =>
    let unit := (arg.bind fun text => (Text.trim text.toList).head?).bind DateUnit.ofChar?
    onDate fun scope i => .ofInt ((scope.now.nanosSince i).tdiv (elapsedUnit unit))

/-- A duration of milliseconds in the given units: whole ones, a text with hours, minutes and
seconds, or words. -/
def formatDuration (units : Option String) (millis : Int) : Value :=
  let seconds := millis.tdiv 1000
  match units with
  | some "days" => .ofInt (seconds.tdiv 86400)
  | some "hours" => .ofInt (seconds.tdiv 3600)
  | some "minutes" => .ofInt (seconds.tdiv 60)
  | some "seconds" => .ofInt seconds
  | some "HHhMMmSSs" =>
    .string (integerText (seconds.tdiv 3600) ++ "H " ++
      integerText ((seconds.tdiv 60).tmod 60) ++ "M " ++ integerText (seconds.tmod 60) ++ "S")
  | _ => .string (humanize millis true)

/-- Formats durations; values that are no numbers pass. -/
def formatDurationPipe : Pipe :=
  .optional fun arg => .pure fun v =>
    match v.toNumber? with
    | some x => formatDuration (arg.map Text.trimmed) x.toInt64
    | none => v

/-- The pipes on dates. -/
def datePipes : Registry Pipe :=
  .ofEntries [
    ("formatDate", formatDatePipe),
    ("parseDate", parseDatePipe),
    ("dateMath", dateMathPipe),
    ("datePlus", datePlusPipe),
    ("fromNow", fromNowPipe),
    ("fromNowUnits", fromNowUnitsPipe),
    ("formatDuration", formatDurationPipe)]

end AccessPolicy.Standard
