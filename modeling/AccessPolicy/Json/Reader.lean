import AccessPolicy.Json.Value
import AccessPolicy.Number.Decimal
import AccessPolicy.Text.Pieces

/-!
# Reading JSON

A reader of JSON texts. Fields keep their order, where a repeated name keeps its first position
and its last value. An integer of 64 bits, signed or not, stays an integer, and every other number
becomes a double. Arrays and objects may be nested less than 128 deep. Each function takes what
it reads off the front of the remaining characters; the fuel is the length of the text, and every
step takes at least one character.
-/

namespace AccessPolicy.Json

/-- The depth of nesting that is refused. -/
def depthLimit : Nat := 128

/-- Whether a character may stand between two tokens. -/
def isSpace (c : Char) : Bool :=
  c = ' ' || c = '\n' || c = '\t' || c = '\r'

/-- Drops the spaces at the front. -/
def skipSpace (cs : List Char) : List Char :=
  cs.dropWhile isSpace

/-- Four hexadecimal digits. -/
def readUnit? : List Char → Option (Nat × List Char)
  | a :: b :: c :: d :: rest => do
    let a ← hexDigit? a
    let b ← hexDigit? b
    let c ← hexDigit? c
    let d ← hexDigit? d
    pure (((a * 16 + b) * 16 + c) * 16 + d, rest)
  | _ => none

/-- The character of an escape after its backslash. A character beyond the first plane takes two
escapes, and half of such a pair is refused. -/
def readEscape? : List Char → Option (Char × List Char)
  | '"' :: rest => some ('"', rest)
  | '\\' :: rest => some ('\\', rest)
  | '/' :: rest => some ('/', rest)
  | 'b' :: rest => some (Char.ofNat 8, rest)
  | 'f' :: rest => some (Char.ofNat 12, rest)
  | 'n' :: rest => some ('\n', rest)
  | 'r' :: rest => some ('\r', rest)
  | 't' :: rest => some ('\t', rest)
  | 'u' :: rest =>
    match readUnit? rest with
    | none => none
    | some (unit, rest) =>
      if 0xdc00 ≤ unit ∧ unit ≤ 0xdfff then none
      else if 0xd800 ≤ unit ∧ unit ≤ 0xdbff then
        -- The first half of a pair, which the second half must follow.
        match rest with
        | '\\' :: 'u' :: more =>
          match readUnit? more with
          | some (low, more) =>
            if 0xdc00 ≤ low ∧ low ≤ 0xdfff then
              some (Char.ofNat (0x10000 + (unit - 0xd800) * 0x400 + (low - 0xdc00)), more)
            else none
          | none => none
        | _ => none
      else some (Char.ofNat unit, rest)
  | _ => none

/-- The rest of a text after its opening quote. -/
def readText? : Nat → List Char → Option (List Char × List Char)
  | 0, _ => none
  | _ + 1, [] => none
  | fuel + 1, c :: cs =>
    if c = '"' then some ([], cs)
    else if c = '\\' then
      match readEscape? cs with
      | some (c, rest) => (readText? fuel rest).map fun r => (c :: r.1, r.2)
      | none => none
    else if c.toNat < 32 then none
    else (readText? fuel cs).map fun r => (c :: r.1, r.2)

/-- The longest number below `2 ^ 64` that the first digits denote, and the digits after it. -/
def takeSignificand (value : Nat) : List Char → Nat × List Char
  | [] => (value, [])
  | c :: cs =>
    let next := 10 * value + (c.toNat - '0'.toNat)
    if next < Nat.pow 2 64 then takeSignificand next cs else (value, c :: cs)

/-- The double of a number with a fraction, an exponent or more digits than an integer holds. Only
the leading digits count whose number fits 64 bits. -/
def ofParts? (negative : Bool) (whole places : List Char) (exponent : Int) : Option Binary64 :=
  let (significand, dropped) := takeSignificand 0 whole
  let (significand, unread) := takeSignificand significand places
  let exponent := exponent + dropped.length - ((places.length : Int) - unread.length)
  ((Binary64.ofInt significand).scaleTen? exponent).map fun x => if negative then -x else x

/-- The exponent of a number, if an exponent mark stands in front. -/
def readExponent? (cs : List Char) : Option (Option Int × List Char) :=
  match cs with
  | c :: rest =>
    if c = 'e' ∨ c = 'E' then
      let (negative, rest) := match rest with
        | '+' :: more => (false, more)
        | '-' :: more => (true, more)
        | _ => (false, rest)
      let digits := rest.takeWhile Char.isDigit
      if digits.isEmpty then none
      else
        let size : Int := digitsValue digits
        some (some (if negative then -size else size), rest.dropWhile Char.isDigit)
    else some (none, cs)
  | [] => some (none, cs)

/-- A number without its sign. -/
def readNumber? (negative : Bool) (cs : List Char) : Option (Number × List Char) := do
  let whole := cs.takeWhile Char.isDigit
  let rest := cs.dropWhile Char.isDigit
  if whole.isEmpty || (whole.length > 1 && whole.head? == some '0') then none
  else
    let (places, rest) ← (match rest with
      | '.' :: more =>
        let places := more.takeWhile Char.isDigit
        if places.isEmpty then none else some (places, more.dropWhile Char.isDigit)
      | _ => some ([], rest))
    let (exponent, rest) ← readExponent? rest
    let value := digitsValue whole
    -- Integers keep their kind as far as 64 bits go, but a negative zero is a double.
    let integral := places.isEmpty && exponent.isNone
    if integral && !negative && value < Nat.pow 2 64 then pure (.int value, rest)
    else if integral && negative && 0 < value && value ≤ Nat.pow 2 63 then
      pure (.int (-value), rest)
    else
      let x ← ofParts? negative whole places (exponent.getD 0)
      pure (.float x, rest)

mutual

/-- A value, within `depth` levels of nesting that are still allowed. No text within the value has
`size` characters. -/
def readValue? (size : Nat) : (fuel depth : Nat) → List Char → Option (Value × List Char)
  | 0, _, _ => none
  | fuel + 1, depth, cs =>
    match skipSpace cs with
    | [] => none
    | '"' :: rest => (readText? size rest).map fun r =>
        (.string (String.ofList r.1), r.2)
    | '[' :: rest =>
      if depth ≤ 1 then none
      else
        match skipSpace rest with
        | ']' :: rest => some (.array [], rest)
        | rest => (readItems? size fuel (depth - 1) rest).map fun r => (.array r.1, r.2)
    | '\x7b' :: rest =>
      if depth ≤ 1 then none
      else
        match skipSpace rest with
        | '\x7d' :: rest => some (.object [], rest)
        | rest => (readFields? size fuel (depth - 1) [] rest).map fun r => (.object r.1, r.2)
    | '-' :: rest => (readNumber? true rest).map fun r => (.number r.1, r.2)
    | 'n' :: rest => (Text.dropFront? ['u', 'l', 'l'] rest).map fun rest => (.null, rest)
    | 't' :: rest => (Text.dropFront? ['r', 'u', 'e'] rest).map fun rest => (.bool true, rest)
    | 'f' :: rest => (Text.dropFront? ['a', 'l', 's', 'e'] rest).map fun rest => (.bool false, rest)
    | rest => (readNumber? false rest).map fun r => (.number r.1, r.2)

/-- The items of an array up to its closing bracket. -/
def readItems? (size : Nat) : (fuel depth : Nat) → List Char → Option (List Value × List Char)
  | 0, _, _ => none
  | fuel + 1, depth, cs =>
    match readValue? size fuel depth cs with
    | none => none
    | some (v, rest) =>
      match skipSpace rest with
      | ']' :: rest => some ([v], rest)
      | ',' :: rest => (readItems? size fuel depth rest).map fun r => (v :: r.1, r.2)
      | _ => none

/-- The fields of an object up to its closing brace, written to the fields read so far. -/
def readFields? (size : Nat) :
    (fuel depth : Nat) → Fields → List Char → Option (Fields × List Char)
  | 0, _, _, _ => none
  | fuel + 1, depth, fields, cs =>
    match skipSpace cs with
    | '"' :: rest =>
      match readText? size rest with
      | none => none
      | some (name, rest) =>
        match skipSpace rest with
        | ':' :: rest =>
          match readValue? size fuel depth rest with
          | none => none
          | some (v, rest) =>
            let fields := Entries.insert (String.ofList name) v fields
            match skipSpace rest with
            | '\x7d' :: rest => some (fields, rest)
            | ',' :: rest => readFields? size fuel depth fields rest
            | _ => none
        | _ => none
    | _ => none

end

/-- The value that a text denotes; none if the text is not JSON. -/
def read? (s : String) : Option Value :=
  let cs := s.toList
  match readValue? (cs.length + 1) (cs.length + 1) depthLimit cs with
  | some (v, rest) => if (skipSpace rest).isEmpty then some v else none
  | none => none

end AccessPolicy.Json
