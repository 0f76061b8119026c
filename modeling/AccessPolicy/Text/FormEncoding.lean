import AccessPolicy.Text.Pieces

/-!
# Form encoding

Text as forms send it. Percent encoding writes the bytes of a text in UTF-8: letters, digits and
`-._~` stand for themselves, and every other byte is a percent sign with two hexadecimal digits.
Forms write a plus sign in place of an encoded space.
-/

namespace AccessPolicy.Text

/-- Whether percent encoding leaves a byte as it is. -/
def isUnreserved (byte : UInt8) : Bool :=
  (Char.ofUInt8 byte).isAlphanum || Char.ofUInt8 byte ∈ ['-', '.', '_', '~']

/-- A byte as a percent sign and two hexadecimal digits in upper case. -/
def percentByte (byte : UInt8) : List Char :=
  ['%', (Nat.digitChar (byte.toNat / 16)).toUpper, (Nat.digitChar (byte.toNat % 16)).toUpper]

/-- The percent encoding of a byte. -/
def encodeByte (byte : UInt8) : List Char :=
  if isUnreserved byte then [Char.ofUInt8 byte] else percentByte byte

/-- The encoding of a text. -/
def formEncode (s : String) : String :=
  String.ofList (replaceAll ['%', '2', '0'] ['+'] (s.toUTF8.data.toList.flatMap encodeByte))

/-- The value of a hexadecimal digit that is given as a byte. -/
def hexValue? (byte : UInt8) : Option UInt8 :=
  if 48 ≤ byte ∧ byte ≤ 57 then some (byte - 48)
  else if 65 ≤ byte ∧ byte ≤ 70 then some (byte - 55)
  else if 97 ≤ byte ∧ byte ≤ 102 then some (byte - 87)
  else none

/-- The bytes that a percent encoding stands for. A percent sign without two digits after it
stands for itself. -/
def decodeBytes : List UInt8 → List UInt8
  | 37 :: high :: low :: rest =>
    match hexValue? high, hexValue? low with
    | some h, some l => (16 * h + l) :: decodeBytes rest
    | _, _ => 37 :: decodeBytes (high :: low :: rest)
  | byte :: rest => byte :: decodeBytes rest
  | [] => []

/-- The text of an encoding, if its bytes are valid UTF-8. -/
def formDecode? (s : String) : Option String :=
  let spaced := String.ofList (replaceAll ['+'] [' '] s.toList)
  String.fromUTF8? ⟨(decodeBytes spaced.toUTF8.data.toList).toArray⟩

end AccessPolicy.Text
