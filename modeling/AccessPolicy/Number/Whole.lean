/-!
# Whole numbers in decimal

Reading and writing of integers in decimal digits, and the values of hexadecimal ones. A reader
accepts exactly the texts of an optional sign and at least one ASCII digit whose value lies in its
range.
-/

namespace AccessPolicy

/-- The number that decimal digits denote. -/
def digitsValue (digits : List Char) : Nat :=
  Nat.ofDigitChars 10 digits 0

/-- The number that a non-empty text of digits denotes. -/
def readDigits? (cs : List Char) : Option Nat :=
  if cs.isEmpty || !cs.all Char.isDigit then none else some (digitsValue cs)

/-- A natural number below `2 ^ 64`, after an optional `+`. -/
def readWord? (s : String) : Option Nat :=
  let digits := match s.toList with
    | '+' :: rest => rest
    | cs => cs
  (readDigits? digits).filter (· < Nat.pow 2 64)

/-- An integer of the given number of bits, after an optional sign. -/
def readSigned? (bits : Nat) (s : String) : Option Int :=
  let value := match s.toList with
    | '+' :: rest => (readDigits? rest).map Int.ofNat
    | '-' :: rest => (readDigits? rest).map fun n => -Int.ofNat n
    | cs => (readDigits? cs).map Int.ofNat
  value.filter fun n => -Int.pow 2 (bits - 1) ≤ n && n < Int.pow 2 (bits - 1)

/-- The value of a hexadecimal digit. -/
def hexDigit? (c : Char) : Option Nat :=
  if c.isDigit then some (c.toNat - '0'.toNat)
  else if 'a' ≤ c ∧ c ≤ 'f' then some (c.toNat - 'a'.toNat + 10)
  else if 'A' ≤ c ∧ c ≤ 'F' then some (c.toNat - 'A'.toNat + 10)
  else none

/-- The digits of a number, filled up with zeros in front to at least `width` digits. -/
def padded (width : Nat) (n : Nat) : List Char :=
  let digits := Nat.toDigits 10 n
  List.replicate (width - digits.length) '0' ++ digits

/-- The decimal digits of an integer, after a minus sign if it is negative. -/
def integerText (n : Int) : String :=
  String.ofList (if n < 0 then '-' :: padded 1 n.natAbs else padded 1 n.natAbs)

end AccessPolicy
