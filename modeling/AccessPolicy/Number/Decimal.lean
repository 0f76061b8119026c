import AccessPolicy.Number.Binary64
import AccessPolicy.Number.Whole

/-!
# Doubles in decimal

The decimal texts of doubles: the fewest digits that read back to the same number, a fixed
number of places, and the two ways to read one. The shortest text is found by trying one digit,
two digits and so on up to seventeen, where the neighbours of the number on each decimal grid
are compared with the ends of the interval of reals that round to it.
-/

namespace AccessPolicy

/-- The number `digits * 10 ^ exponent`. -/
structure Decimal where
  /-- The significant digits, as a number. -/
  digits : Nat
  /-- The power of ten that the digits are multiplied by. -/
  exponent : Int
deriving DecidableEq

namespace Decimal

/-- The double nearest to a decimal, with the given sign. -/
def toBinary64 (negative : Bool) (d : Decimal) : Binary64 :=
  if d.digits = 0 then Binary64.zero negative
  else if 400 < d.exponent then .infinite negative
  else if d.exponent + (Nat.log2 d.digits : Int) / 3 + 1 < -400 then Binary64.zero negative
  else
    Binary64.ofRatio negative (d.digits * Nat.pow 10 d.exponent.toNat)
      (Nat.pow 10 (-d.exponent).toNat)

/-- The same number without zeros at the end of its digits. -/
def stripZeros (d : Decimal) : Decimal :=
  go d.digits d.exponent (Nat.log2 d.digits)
where
  /-- Takes at most the given number of zeros off. -/
  go (digits : Nat) (exponent : Int) : Nat → Decimal
    | 0 => ⟨digits, exponent⟩
    | fuel + 1 =>
      if digits % 10 = 0 ∧ digits ≠ 0 then go (digits / 10) (exponent + 1) fuel
      else ⟨digits, exponent⟩

end Decimal

namespace Binary64

/-- The greatest power of ten that is at most the positive number `num / den`. -/
def decimalExponent (num den : Nat) : Int :=
  let bits : Int := (Nat.log2 num : Int) - (Nat.log2 den : Int)
  let guess := (bits - 1) * 30103 / 100000
  let reaches (k : Int) : Bool := den * Nat.pow 10 k.toNat ≤ num * Nat.pow 10 (-k).toNat
  if reaches (guess + 2) then guess + 2
  else if reaches (guess + 1) then guess + 1
  else if reaches guess then guess
  else guess - 1

/-- The interval of reals that round to a positive finite number, in quarters of its last
place: the lower end, the number and the upper end. The gap below a power of two is half as
wide as the gap above it. -/
def roundingInterval (significand : Nat) (exponent : Int) : Nat × Nat × Nat :=
  let below := if significand = Nat.pow 2 52 ∧ leastExponent < exponent then 1 else 2
  (4 * significand - below, 4 * significand, 4 * significand + 2)

/-- The multiple of `10 ^ power` nearest to a positive finite number, if some multiple rounds to
that number. -/
def nearestOnGrid? (significand : Nat) (exponent power : Int) : Option Nat :=
  -- The interval is in quarters of a unit; both sides are scaled to whole numbers.
  let (low, mid, high) := roundingInterval significand exponent
  let scale := Nat.pow 2 (exponent - 2).toNat * Nat.pow 10 (-power).toNat
  let unit := Nat.pow 2 (2 - exponent).toNat * Nat.pow 10 power.toNat
  let below := mid * scale / unit
  -- An even significand owns the ends of its interval.
  let closed := significand % 2 = 0
  let lowHit := low * scale < below * unit ∨ (closed ∧ low * scale = below * unit)
  let highHit :=
    (below + 1) * unit < high * scale ∨ (closed ∧ (below + 1) * unit = high * scale)
  -- Of two hits the nearer, and the even one if they are equally near.
  if lowHit ∧ highHit then
    let twice := 2 * mid * scale
    let middle := (2 * below + 1) * unit
    if twice < middle ∨ (twice = middle ∧ below % 2 = 0) then some below else some (below + 1)
  else if lowHit then some below
  else if highHit then some (below + 1)
  else none

/-- The decimal with the fewest digits that rounds to a positive finite number, and of those
the nearest. -/
def shortest (significand : Nat) (exponent : Int) : Decimal :=
  let lead :=
    decimalExponent (significand * Nat.pow 2 exponent.toNat) (Nat.pow 2 (-exponent).toNat)
  (go lead 17).stripZeros
where
  /-- Tries the grid of `10 ^ power` and then the next finer ones. -/
  go (power : Int) : Nat → Decimal
    | 0 => ⟨significand * Nat.pow 2 exponent.toNat, 0⟩
    | fuel + 1 =>
      match nearestOnGrid? significand exponent power with
      | some digits => ⟨digits, power⟩
      | none => go (power - 1) fuel

/-- The fewest digits that read back: positional notation with at least one place when the first
digit stands for a power of ten from `-5` to `15`, else a signed exponent and no needless
places. -/
def toText : Binary64 → String
  | .nan => "NaN"
  | .infinite negative => if negative then "-inf" else "inf"
  | .finite negative significand exponent =>
    let sign := if negative then "-" else ""
    if significand = 0 then sign ++ "0.0"
    else
      let d := shortest significand exponent
      let digits := Nat.toDigits 10 d.digits
      -- The power of ten that the first digit stands for.
      let lead := d.exponent + digits.length - 1
      let text :=
        if -5 ≤ lead ∧ lead ≤ 15 then
          if lead < 0 then
            ['0', '.'] ++ List.replicate (-lead - 1).toNat '0' ++ digits
          else
            let whole := lead.toNat + 1
            let places := digits.drop whole
            digits.take whole ++ List.replicate (whole - digits.length) '0' ++ ['.'] ++
              (if places.isEmpty then ['0'] else places)
        else
          digits.take 1 ++ (if digits.length = 1 then [] else '.' :: digits.drop 1) ++ ['e'] ++
            [if lead < 0 then '-' else '+'] ++ Nat.toDigits 10 lead.natAbs
      sign ++ String.ofList text

/-- The number with exactly `places` decimal places, rounded from its exact value; a half goes
to the even digit. A negative zero keeps its sign. -/
def toFixed (places : Nat) : Binary64 → String
  | .nan => "NaN"
  | .infinite negative => if negative then "-inf" else "inf"
  | .finite negative significand exponent =>
    let scaled := roundDiv (significand * Nat.pow 2 exponent.toNat * Nat.pow 10 places)
      (Nat.pow 2 (-exponent).toNat)
    let digits := padded (places + 1) scaled
    let whole := digits.length - places
    let text := digits.take whole ++ (if places = 0 then [] else '.' :: digits.drop whole)
    String.ofList (if negative then '-' :: text else text)

/-- Splits an exponent mark and its signed digits off, if the text is exactly that or empty. -/
def readExponent? : List Char → Option Int
  | [] => some 0
  | c :: cs =>
    if c = 'e' ∨ c = 'E' then
      match cs with
      | '+' :: digits => (readDigits? digits).map Int.ofNat
      | '-' :: digits => (readDigits? digits).map fun n => -Int.ofNat n
      | digits => (readDigits? digits).map Int.ofNat
    else none

/-- An unsigned decimal: digits with an optional point among or around them, and an optional
exponent. -/
def readDecimal? (cs : List Char) : Option Decimal :=
  let whole := cs.takeWhile Char.isDigit
  let rest := cs.dropWhile Char.isDigit
  let (places, rest) := match rest with
    | '.' :: more => (more.takeWhile Char.isDigit, more.dropWhile Char.isDigit)
    | _ => ([], rest)
  if whole.isEmpty && places.isEmpty then none
  else
    (readExponent? rest).map fun exponent =>
      ⟨digitsValue (whole ++ places), exponent - places.length⟩

/-- Reads a number: a decimal, or the name of an infinity or of the undefined number in letters
of either case, after an optional sign. The result is the nearest double. -/
def read? (s : String) : Option Binary64 :=
  let (negative, cs) := match s.toList with
    | '+' :: rest => (false, rest)
    | '-' :: rest => (true, rest)
    | cs => (false, cs)
  let name := String.ofList (cs.map Char.toLower)
  if name = "inf" ∨ name = "infinity" then some (.infinite negative)
  else if name = "nan" then some .nan
  else (readDecimal? cs).map (Decimal.toBinary64 negative)

/-- A power of ten, rounded. -/
def ten (power : Nat) : Binary64 :=
  ofRatio false (Nat.pow 10 power) 1

/-- A positive number scaled by a power of ten, each step rounded: one multiplication or
division by a rounded power of ten, after divisions by `10 ^ 308` as long as the exponent is
below that. None if the result is too large. -/
def scaleTen? (x : Binary64) (exponent : Int) : Option Binary64 :=
  go x exponent 4
where
  /-- Divides by `10 ^ 308` at most the given number of times. -/
  go (x : Binary64) (exponent : Int) : Nat → Option Binary64
    | 0 => some x
    | fuel + 1 =>
      if exponent.natAbs ≤ 308 then
        if exponent < 0 then some (x / ten exponent.natAbs)
        else
          let scaled := x * ten exponent.natAbs
          if scaled.isFinite then some scaled else none
      else if x.isZero then some x
      else if 0 < exponent then none
      else go (x / ten 308) (exponent + 308) fuel

end Binary64

end AccessPolicy
