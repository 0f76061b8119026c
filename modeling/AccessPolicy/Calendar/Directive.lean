import AccessPolicy.Text.Blank
import AccessPolicy.Text.Pieces

/-!
# Date patterns

A date pattern is text with directives such as `%Y`, each of which stands for a field of a date
or a time. The same pattern writes dates and reads them.
-/

namespace AccessPolicy

/-- How a number is filled up to its width. -/
inductive Padding where
  | none
  | zeros
  | spaces
deriving DecidableEq

/-- The fields that are written as numbers. -/
inductive NumericField where
  | year
  | century
  | yearOfCentury
  | isoYear
  | isoYearOfCentury
  | quarter
  | month
  | day
  | weekFromSunday
  | weekFromMonday
  | isoWeek
  | daysFromSunday
  | weekdayFromMonday
  | ordinal
  | hour
  | hour12
  | minute
  | second
  | nanosecond
  | timestamp
deriving DecidableEq

/-- How many colons stand between the parts of an offset, or how much of it is written. -/
inductive OffsetForm where
  /-- Hours and minutes. -/
  | plain
  /-- Hours and minutes with a colon. -/
  | colon
  /-- Hours, minutes and seconds with colons. -/
  | seconds
  /-- Hours alone. -/
  | hours
deriving DecidableEq

/-- The fields that are not plain numbers. -/
inductive NamedField where
  | shortMonth
  | longMonth
  | shortWeekday
  | longWeekday
  | lowerHalf
  | upperHalf
  /-- A point and three, six or nine places of a second, or nothing for a full second. -/
  | fraction
  /-- A point and a fixed number of places. -/
  | places (count : Nat)
  /-- A fixed number of places without a point. -/
  | barePlaces (count : Nat)
  | zoneName
  | offset (form : OffsetForm)
  /-- An offset that may lack its minutes, which is only read. -/
  | lenientOffset
  /-- A whole date and time with its offset. -/
  | dateTime
deriving DecidableEq

/-- One part of a date pattern. -/
inductive Directive where
  /-- Text without white space. -/
  | literal (text : List Char)
  /-- White space. -/
  | space (text : List Char)
  /-- A field that is written as a number. -/
  | numeric (field : NumericField) (padding : Padding)
  /-- Any other field. -/
  | named (field : NamedField)
deriving DecidableEq

namespace Directive

/-- A number filled up with zeros. -/
def zeros (field : NumericField) : Directive :=
  .numeric field .zeros

/-- A number filled up with spaces. -/
def spaces (field : NumericField) : Directive :=
  .numeric field .spaces

/-- One literal character. -/
def char (c : Char) : Directive :=
  .literal [c]

/-- Hours, minutes and seconds. -/
def clock (hours : NumericField) : List Directive :=
  [zeros hours, char ':', zeros .minute, char ':', zeros .second]

/-- Month, day and year of the century. -/
def shortDate : List Directive :=
  [zeros .month, char '/', zeros .day, char '/', zeros .yearOfCentury]

/-- The parts that a letter after a percent sign stands for. -/
def ofLetter? (letter : Char) : Option (List Directive) :=
  match letter with
  | 'A' => some [.named .longWeekday]
  | 'B' => some [.named .longMonth]
  | 'C' => some [zeros .century]
  | 'D' => some shortDate
  | 'F' => some [zeros .year, char '-', zeros .month, char '-', zeros .day]
  | 'G' => some [zeros .isoYear]
  | 'H' => some [zeros .hour]
  | 'I' => some [zeros .hour12]
  | 'M' => some [zeros .minute]
  | 'P' => some [.named .lowerHalf]
  | 'R' => some [zeros .hour, char ':', zeros .minute]
  | 'S' => some [zeros .second]
  | 'T' => some (clock .hour)
  | 'U' => some [zeros .weekFromSunday]
  | 'V' => some [zeros .isoWeek]
  | 'W' => some [zeros .weekFromMonday]
  | 'X' => some (clock .hour)
  | 'Y' => some [zeros .year]
  | 'Z' => some [.named .zoneName]
  | 'a' => some [.named .shortWeekday]
  | 'b' => some [.named .shortMonth]
  | 'c' =>
    some ([.named .shortWeekday, .space [' '], .named .shortMonth, .space [' '], spaces .day,
      .space [' ']] ++ clock .hour ++ [.space [' '], zeros .year])
  | 'd' => some [zeros .day]
  | 'e' => some [spaces .day]
  | 'f' => some [zeros .nanosecond]
  | 'g' => some [zeros .isoYearOfCentury]
  | 'h' => some [.named .shortMonth]
  | 'j' => some [zeros .ordinal]
  | 'k' => some [spaces .hour]
  | 'l' => some [spaces .hour12]
  | 'm' => some [zeros .month]
  | 'n' => some [.space ['\n']]
  | 'p' => some [.named .upperHalf]
  | 'q' => some [.numeric .quarter .none]
  | 'r' => some (clock .hour12 ++ [.space [' '], .named .upperHalf])
  | 's' => some [.numeric .timestamp .none]
  | 't' => some [.space ['\t']]
  | 'u' => some [.numeric .weekdayFromMonday .none]
  | 'v' => some [spaces .day, char '-', .named .shortMonth, char '-', zeros .year]
  | 'w' => some [.numeric .daysFromSunday .none]
  | 'x' => some shortDate
  | 'y' => some [zeros .yearOfCentury]
  | 'z' => some [.named (.offset .plain)]
  | '+' => some [.named .dateTime]
  | '%' => some [char '%']
  | _ => none

/-- The directives of more than one letter, without their percent sign. -/
def longForms : List (List Char × Directive) :=
  [(['#', 'z'], .named .lenientOffset),
   ([':', 'z'], .named (.offset .colon)),
   ([':', ':', 'z'], .named (.offset .seconds)),
   ([':', ':', ':', 'z'], .named (.offset .hours)),
   (['.', 'f'], .named .fraction),
   (['.', '3', 'f'], .named (.places 3)),
   (['.', '6', 'f'], .named (.places 6)),
   (['.', '9', 'f'], .named (.places 9)),
   (['3', 'f'], .named (.barePlaces 3)),
   (['6', 'f'], .named (.barePlaces 6)),
   (['9', 'f'], .named (.barePlaces 9))]

/-- The padding that a mark between the percent sign and the letter asks for. -/
def paddingOf? (mark : Char) : Option Padding :=
  match mark with
  | '-' => some .none
  | '0' => some .zeros
  | '_' => some .spaces
  | _ => none

/-- The directive that begins after a percent sign. A mark of padding goes with single numbers
only. -/
def readOne? (cs : List Char) : Option (List Directive × List Char) :=
  match cs with
  | [] => none
  | c :: rest =>
    match paddingOf? c with
    | some padding =>
      match rest with
      | [] => none
      | letter :: rest =>
        match ofLetter? letter with
        | some [.numeric field _] => some ([.numeric field padding], rest)
        | _ => none
    | none =>
      match longForms.findSome? fun form =>
          (Text.dropFront? form.1 cs).map fun rest => (form.2, rest) with
      | some (directive, rest) => some ([directive], rest)
      | none => (ofLetter? c).map fun directives => (directives, rest)

/-- Puts a character that is no part of a directive in front of the parts of the rest: it joins
a text of its own kind, white space or other. -/
def consChar (c : Char) : List Directive → List Directive
  | .literal text :: rest =>
    if Text.isBlank c then .space [c] :: .literal text :: rest else .literal (c :: text) :: rest
  | .space text :: rest =>
    if Text.isBlank c then .space (c :: text) :: rest else .literal [c] :: .space text :: rest
  | rest => (if Text.isBlank c then .space [c] else .literal [c]) :: rest

/-- Reads the parts of a pattern, at most as many as the fuel. -/
def readFrom? : Nat → List Char → Option (List Directive)
  | 0, _ => some []
  | _ + 1, [] => some []
  | fuel + 1, c :: cs =>
    if c = '%' then
      match readOne? cs with
      | some (directives, rest) => (readFrom? fuel rest).map (directives ++ ·)
      | none => none
    else (readFrom? fuel cs).map (consChar c)

/-- The parts of a pattern; none if it holds an unknown directive. -/
def readAll? (pattern : String) : Option (List Directive) :=
  readFrom? (pattern.length + 1) pattern.toList

end Directive

end AccessPolicy
