import AccessPolicy.Calendar.Date
import AccessPolicy.Json.Reader
import AccessPolicy.Number.Decimal

/-!
# Scalars of TOML

Truth values, numbers and dates. They are told apart by all of their characters. Integers have 64
bits. Dates are checked, but no JSON value stands for them, so they become null.
-/

namespace AccessPolicy.Toml

/-- The digits of a text in which single underscores may stand between digits. -/
def readGroups? (isDigit : Char → Bool) : List Char → Option (List Char)
  | [] => none
  | [c] => if isDigit c then some [c] else none
  | c :: '_' :: rest =>
    if isDigit c then (readGroups? isDigit rest).map fun digits => c :: digits else none
  | c :: d :: rest =>
    if isDigit c then (readGroups? isDigit (d :: rest)).map fun digits => c :: digits else none

/-- Decimal digits without a needless zero in front. -/
def readWhole? (cs : List Char) : Option (List Char) :=
  (readGroups? Char.isDigit cs).filter fun digits =>
    digits.length = 1 || digits.head? ≠ some '0'

/-- The number that digits of the given base denote. -/
def readBase? (base : Nat) (cs : List Char) : Option Int := do
  let isDigit (c : Char) : Bool := (hexDigit? c).any (· < base)
  let digits ← readGroups? isDigit cs
  let n := digits.foldl (fun n c => base * n + (hexDigit? c).getD 0) 0
  return (n : Int)

/-- An integer. -/
def readInteger? (cs : List Char) : Option Int :=
  let value := match cs with
    | '0' :: 'x' :: rest => readBase? 16 rest
    | '0' :: 'o' :: rest => readBase? 8 rest
    | '0' :: 'b' :: rest => readBase? 2 rest
    | '+' :: rest => (readWhole? rest).map fun digits => (digitsValue digits : Int)
    | '-' :: rest => (readWhole? rest).map fun digits => -(digitsValue digits : Int)
    | cs => (readWhole? cs).map fun digits => (digitsValue digits : Int)
  value.filter fun n => -Int.pow 2 63 ≤ n && n < Int.pow 2 63

/-- The text without the sign in front. -/
def dropSign : List Char → List Char
  | '+' :: rest => rest
  | '-' :: rest => rest
  | cs => cs

/-- Whether a text is an exponent after its mark. -/
def isExponent (cs : List Char) : Bool :=
  (readGroups? Char.isDigit (dropSign cs)).isSome

/-- Whether a text is a decimal with places, an exponent or both, or the name of an infinity or
of the undefined number. -/
def isFloat (cs : List Char) : Bool :=
  let unsigned := dropSign cs
  let mark (c : Char) : Bool := c = 'e' || c = 'E'
  let mantissa := unsigned.takeWhile fun c => !mark c
  let exponent := unsigned.drop mantissa.length
  let whole := mantissa.takeWhile (· ≠ '.')
  let places := mantissa.drop whole.length
  unsigned = ['i', 'n', 'f'] || unsigned = ['n', 'a', 'n'] ||
    ((readWhole? whole).isSome && (!places.isEmpty || !exponent.isEmpty) &&
      (places.isEmpty || (readGroups? Char.isDigit (places.drop 1)).isSome) &&
      (exponent.isEmpty || isExponent (exponent.drop 1)))

/-- A float. A number that is too large is refused. -/
def readFloat? (cs : List Char) : Option Binary64 :=
  if isFloat cs then
    (Binary64.read? (String.ofList (cs.filter (· ≠ '_')))).filter fun x =>
      x ≠ .infinite false || 'i' ∈ cs
  else none

/-- Two digits. -/
def readTwo? (a b : Char) : Option Nat :=
  readDigits? [a, b]

/-- Whether a text is a calendar date. -/
def isDate : List Char → Bool
  | [a, b, c, d, '-', e, f, '-', g, h] =>
    match readDigits? [a, b, c, d], readTwo? e f, readTwo? g h with
    | some year, some month, some day => (Date.ofParts? year month day).isSome
    | _, _, _ => false
  | _ => false

/-- What follows a time of day. -/
def afterTime? : List Char → Option (List Char)
  | a :: b :: ':' :: c :: d :: ':' :: e :: f :: rest =>
    match readTwo? a b, readTwo? c d, readTwo? e f with
    | some hour, some minute, some second =>
      if hour < 24 ∧ minute < 60 ∧ second ≤ 60 then
        match rest with
        | '.' :: g :: rest =>
          if g.isDigit then some (rest.dropWhile Char.isDigit) else none
        | rest => some rest
      else none
    | _, _, _ => none
  | _ => none

/-- Whether a text is an offset. -/
def isOffset : List Char → Bool
  | ['Z'] => true
  | ['z'] => true
  | sign :: a :: b :: ':' :: [c, d] =>
    (sign = '+' || sign = '-') && (readTwo? a b).any (· < 24) && (readTwo? c d).any (· < 60)
  | _ => false

/-- Whether a text is a date, a time of day, or both with or without an offset. -/
def isDateTime (cs : List Char) : Bool :=
  isDate cs || afterTime? cs = some [] ||
    (isDate (cs.take 10) &&
      match cs.drop 10 with
      | mark :: rest =>
        (mark = 'T' || mark = 't' || mark = ' ') &&
          (afterTime? rest).any fun rest => rest.isEmpty || isOffset rest
      | [] => false)

/-- The value of a scalar that is no string. -/
def readScalar? (cs : List Char) : Option Value :=
  if cs = ['t', 'r', 'u', 'e'] then some (.bool true)
  else if cs = ['f', 'a', 'l', 's', 'e'] then some (.bool false)
  else
    ((readInteger? cs).map Value.ofInt).or <|
    ((readFloat? cs).map fun x => .number (.float x)).or <|
    if isDateTime cs then some .null else none

end AccessPolicy.Toml
