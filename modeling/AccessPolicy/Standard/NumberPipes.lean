import AccessPolicy.Expression.Pipe
import AccessPolicy.Json.Coercion
import AccessPolicy.Text.Pieces

/-!
# Pipes on numbers

Formatting, rounding, arithmetic and bounds. Results without a finite value are null.
-/

namespace AccessPolicy.Standard

/-- The first argument as `read?` understands it, if there is one. -/
def readArgument {α : Type} (pipe : String) (read? : String → Option α) (args : List String) :
    Except ExprError (Option α) :=
  match args with
  | [] => .ok none
  | arg :: _ =>
    match read? (Text.trimmed arg) with
    | some a => .ok (some a)
    | none => .error (.invalidPipeArgs pipe ("'" ++ arg ++ "' is not a number"))

/-- Digits with a comma in front of each group of three, counted from the end. -/
def groupDigits : List Char → List Char
  | [] => []
  | [c] => [c]
  | c :: d :: cs =>
    if (cs.length + 1) % 3 = 0 then c :: ',' :: groupDigits (d :: cs)
    else c :: groupDigits (d :: cs)

/-- An integer in digits with its thousands grouped. -/
def groupThousands : List Char → List Char
  | '-' :: digits => '-' :: groupDigits digits
  | digits => groupDigits digits

/-- The text without zeros at its end, and without a point after them. -/
def dropZeros (cs : List Char) : List Char :=
  ((cs.reverse.dropWhile (· = '0')).dropWhile (· = '.')).reverse

/-- A number with grouped thousands: with a fixed number of places, or with at most three. -/
def formatNumber (places : Option Nat) (x : Binary64) : String :=
  let text := (x.toFixed (places.getD 3)).toList
  let text := if places.isNone && '.' ∈ text then dropZeros text else text
  String.ofList <|
    match Text.cutAt? ['.'] text with
    | some (whole, fraction) => groupThousands whole ++ ['.'] ++ fraction
    | none => groupThousands text

/-- Formats numbers; other values but null become the empty text. -/
def numberPipe : Pipe := fun args => do
  let places ← readArgument "number" readWord? args
  return .pure fun v =>
    match v with
    | .null => .null
    | .number n => .string (formatNumber places n.toBinary64)
    | _ => .string ""

/-- The number rounded to a multiple of a power of ten, a half away from zero. -/
def roundTo (precision : Int) (x : Binary64) : Value :=
  let scale := Binary64.powInt (.ofInt 10) precision
  .ofBinary64 ((x * scale).roundHalfAway / scale)

/-- Rounds numbers. -/
def roundPipe : Pipe := fun args => do
  let precision ← readArgument "round" (readSigned? 32) args
  return .pure fun v => v.mapItems fun item =>
    match item with
    | .number n => roundTo (precision.getD 0) n.toBinary64
    | item => item

/-- Combines the number of a value with an operand, which is zero if none is given. -/
def arithmeticPipe (name : String) (op : Binary64 → Binary64 → Binary64) : Pipe := fun args => do
  let operand ← readArgument name Binary64.read? args
  return .pure fun v =>
    match v.toNumber? with
    | some x => .ofBinary64 (op x (operand.getD (.ofInt 0)))
    | none => .null

/-- Replaces numbers beyond a bound by the bound. -/
def boundPipe (name : String) (beyond : Ordering) : Pipe := fun args => do
  let bound ← readArgument name Binary64.read? args
  return .pure fun v =>
    match v, bound with
    | .number n, some bound =>
      if n.toBinary64.compare? bound = some beyond then .ofBinary64 bound else v
    | _, _ => v

/-- The pipes on numbers. -/
def numberPipes : Registry Pipe :=
  .ofEntries [
    ("number", numberPipe),
    ("round", roundPipe),
    ("max", boundPipe "max" .gt),
    ("min", boundPipe "min" .lt),
    ("times", arithmeticPipe "times" (· * ·)),
    ("multiply", arithmeticPipe "multiply" (· * ·)),
    ("div", arithmeticPipe "div" (· / ·)),
    ("plus", arithmeticPipe "plus" (· + ·)),
    ("add", arithmeticPipe "add" (· + ·)),
    ("minus", arithmeticPipe "minus" (· - ·))]

end AccessPolicy.Standard
