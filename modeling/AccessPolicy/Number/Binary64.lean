/-!
# Double-precision numbers

The numbers of the IEEE 754 format `binary64`, as exact values: a finite number is a
significand times a power of two. Every operation computes the exact result and rounds it once,
to the nearest double, where a half goes to the even significand.
-/

namespace AccessPolicy

/-- A double-precision number. A finite one has the value `significand * 2 ^ exponent`, negated
if `negative`; its significand is below `2 ^ 53`, and at least `2 ^ 52` unless the exponent is
the least one. -/
inductive Binary64 where
  /-- A finite number, zeros of both signs among them. -/
  | finite (negative : Bool) (significand : Nat) (exponent : Int)
  /-- An infinity. -/
  | infinite (negative : Bool)
  /-- The value of an undefined operation. -/
  | nan
deriving DecidableEq

namespace Binary64

/-- The least exponent of a finite number. -/
def leastExponent : Int := -1074

/-- The greatest exponent of a finite number. -/
def greatestExponent : Int := 971

/-- The zero of a sign. -/
def zero (negative : Bool) : Binary64 :=
  .finite negative 0 leastExponent

/-- A quotient rounded to the nearest natural number; a half goes to the even one. -/
def roundDiv (num den : Nat) : Nat :=
  let quotient := num / den
  let rest := 2 * (num % den)
  if rest > den ∨ (rest = den ∧ quotient % 2 = 1) then quotient + 1 else quotient

/-- The quotient `num / den / 2 ^ exponent` as a fraction. -/
def scaleDown (num den : Nat) (exponent : Int) : Nat × Nat :=
  (num * Nat.pow 2 (-exponent).toNat, den * Nat.pow 2 exponent.toNat)

/-- The exponent that gives the positive number `num / den` a significand between `2 ^ 52` and
`2 ^ 53`, or the least exponent if that is greater. -/
def exponentOf (num den : Nat) : Int :=
  let guess : Int := (Nat.log2 num : Int) - (Nat.log2 den : Int) - 52
  let scaled := scaleDown num den guess
  max leastExponent (if scaled.1 / scaled.2 < Nat.pow 2 52 then guess - 1 else guess)

/-- The double nearest to `num / den`, with the given sign. -/
def ofRatio (negative : Bool) (num den : Nat) : Binary64 :=
  if num = 0 then zero negative
  else
    let exponent := exponentOf num den
    let scaled := scaleDown num den exponent
    let significand := roundDiv scaled.1 scaled.2
    let carried := significand = Nat.pow 2 53
    let exponent := if carried then exponent + 1 else exponent
    let significand := if carried then Nat.pow 2 52 else significand
    if greatestExponent < exponent then .infinite negative
    else .finite negative significand exponent

/-- The double nearest to `significand * 2 ^ exponent`, with the given sign. -/
def ofScaled (negative : Bool) (significand : Nat) (exponent : Int) : Binary64 :=
  ofRatio negative (significand * Nat.pow 2 exponent.toNat) (Nat.pow 2 (-exponent).toNat)

/-- The double nearest to an integer. -/
def ofInt (value : Int) : Binary64 :=
  ofRatio (value < 0) value.natAbs 1

/-- Whether the number is neither infinite nor undefined. -/
def isFinite : Binary64 → Bool
  | .finite _ _ _ => true
  | _ => false

/-- Whether the number is a zero. -/
def isZero : Binary64 → Bool
  | .finite _ significand _ => significand == 0
  | _ => false

/-- The number with the other sign. -/
def neg : Binary64 → Binary64
  | .finite negative significand exponent => .finite (!negative) significand exponent
  | .infinite negative => .infinite (!negative)
  | .nan => .nan

/-- The size of a finite number in units of `2 ^ least`, with its sign. The exponent `least` is at
most that of the number. -/
def alignedTo (least : Int) (negative : Bool) (significand : Nat) (exponent : Int) : Int :=
  let size : Int := significand * Int.pow 2 (exponent - least).toNat
  if negative then -size else size

/-- The sum. Two numbers that cancel give the positive zero. -/
def add : Binary64 → Binary64 → Binary64
  | .finite s m e, .finite t n f =>
    let least := min e f
    let total := alignedTo least s m e + alignedTo least t n f
    if total = 0 then zero (s && t) else ofScaled (total < 0) total.natAbs least
  | .nan, _ => .nan
  | _, .nan => .nan
  | .infinite s, .infinite t => if s = t then .infinite s else .nan
  | .infinite s, _ => .infinite s
  | _, .infinite t => .infinite t

/-- The difference. -/
def sub (x y : Binary64) : Binary64 :=
  x.add y.neg

/-- The product. -/
def mul : Binary64 → Binary64 → Binary64
  | .finite s m e, .finite t n f => ofScaled (s != t) (m * n) (e + f)
  | .nan, _ => .nan
  | _, .nan => .nan
  | .infinite s, .infinite t => .infinite (s != t)
  | .infinite s, .finite t n _ => if n = 0 then .nan else .infinite (s != t)
  | .finite s m _, .infinite t => if m = 0 then .nan else .infinite (s != t)

/-- The quotient. A number divided by zero is infinite, zero divided by zero undefined. -/
def div : Binary64 → Binary64 → Binary64
  | .finite s m e, .finite t n f =>
    if n = 0 then if m = 0 then .nan else .infinite (s != t)
    else
      let scaled := scaleDown m n (f - e)
      ofRatio (s != t) scaled.1 scaled.2
  | .nan, _ => .nan
  | _, .nan => .nan
  | .infinite _, .infinite _ => .nan
  | .infinite s, .finite t _ _ => .infinite (s != t)
  | .finite s _ _, .infinite t => zero (s != t)

instance : Add Binary64 := ⟨add⟩
instance : Sub Binary64 := ⟨sub⟩
instance : Mul Binary64 := ⟨mul⟩
instance : Div Binary64 := ⟨div⟩
instance : Neg Binary64 := ⟨neg⟩

/-- The order of two numbers, if both are defined. The zeros of both signs are equal. -/
def compare? : Binary64 → Binary64 → Option Ordering
  | .finite s m e, .finite t n f =>
    let least := min e f
    some (compare (alignedTo least s m e) (alignedTo least t n f))
  | .nan, _ => none
  | _, .nan => none
  | .infinite s, .infinite t => some (compare (!s).toNat (!t).toNat)
  | .infinite s, _ => some (if s then .lt else .gt)
  | _, .infinite t => some (if t then .gt else .lt)

/-- Whether the number has no fractional part. -/
def isIntegral : Binary64 → Bool
  | .finite _ significand exponent =>
    exponent ≥ 0 || significand % Nat.pow 2 (-exponent).toNat == 0
  | _ => false

/-- The integer part of a finite number; of another none. -/
def truncate? : Binary64 → Option Int
  | .finite negative significand exponent =>
    let size : Int :=
      ((significand * Nat.pow 2 exponent.toNat / Nat.pow 2 (-exponent).toNat : Nat) : Int)
    some (if negative then -size else size)
  | _ => none

/-- The number rounded to an integer, a half away from zero. The sign is kept. -/
def roundHalfAway : Binary64 → Binary64
  | .finite negative significand exponent =>
    if exponent ≥ 0 then .finite negative significand exponent
    else
      let unit := Nat.pow 2 (-exponent).toNat
      ofScaled negative ((2 * significand + unit) / (2 * unit)) 0
  | other => other

/-- A natural power by repeated squaring, each product rounded. -/
def powNat (base : Binary64) (n : Nat) : Binary64 :=
  go base (ofInt 1) n (n + 1)
where
  /-- Multiplies `acc` by the powers of `square` that the binary digits of `n` name. -/
  go (square acc : Binary64) (n : Nat) : Nat → Binary64
    | 0 => acc
    | fuel + 1 =>
      let acc := if n % 2 = 1 then acc * square else acc
      if n / 2 = 0 then acc else go (square * square) acc (n / 2) fuel

/-- An integral power by repeated squaring; a negative one is the reciprocal of the positive. -/
def powInt (base : Binary64) (n : Int) : Binary64 :=
  if n < 0 then ofInt 1 / powNat base n.natAbs else powNat base n.natAbs

/-- The integers of 64 bits nearest to the ends of the range when `value` lies outside. -/
def clampInt64 (value : Int) : Int :=
  max (-Int.pow 2 63) (min (Int.pow 2 63 - 1) value)

/-- The integer part within the range of 64-bit integers; zero for an undefined number. -/
def toInt64 : Binary64 → Int
  | .nan => 0
  | .infinite negative => if negative then -Int.pow 2 63 else Int.pow 2 63 - 1
  | .finite negative significand exponent =>
    clampInt64 ((Binary64.finite negative significand exponent).truncate?.getD 0)

end Binary64

end AccessPolicy
