import AccessPolicy.Number.Whole
import AccessPolicy.Pattern.CharClass

/-!
# Tables of character properties

The general categories, scripts, ages and further properties that version 15.0 of Unicode gives to
characters. The texts of a table list ranges of characters in ascending order. Each range is
written in hexadecimal digits: how far its first character is behind the last one of the range
before it and, after a plus sign, how many more characters it has.
-/

namespace AccessPolicy.Pattern

/-- The number that hexadecimal digits denote. -/
def hexValue (digits : List Char) : Nat :=
  (digits.filterMap hexDigit?).foldl (fun value digit => 16 * value + digit) 0

/-- The ranges of code points that the entries of a table stand for, behind the code point
`last`. -/
def decodeRanges (last : Nat) : List (List Char) → List (Nat × Nat)
  | [] => []
  | entry :: entries =>
    let first := last + hexValue (entry.takeWhile (· ≠ '+'))
    let final := first + hexValue (entry.dropWhile (· ≠ '+'))
    (first, final) :: decodeRanges final entries

/-- A class and the names of the property that its characters have. -/
structure NamedClass where
  /-- The names, in small letters and without blanks, dashes and underscores. -/
  names : List String
  /-- The characters. -/
  members : CharClass

/-- The class that has a name. -/
def NamedClass.find? (classes : List NamedClass) (name : String) : Option CharClass :=
  (classes.find? fun entry => name ∈ entry.names).map (·.members)

namespace CharClass

/-- The characters in the ranges that the lines of a table list. -/
def encoded (lines : List String) : CharClass :=
  let ranges := decodeRanges 0 (lines.flatMap fun line => line.toList.splitOn ' ')
  fun c => Text.inRanges ranges c.toNat

/-! ### General categories -/

/-- The characters of general category `Lu`. -/
def uppercaseLetter : CharClass := encoded
    ["41+19 66+16 2+6 22 2 2 2 2 2 2 2 2 2 2 2 2 2 2 2 2 2 2 2 2 2 2 2 2 2 2 2 3 2 2 2 2 2 2 2 3 2",
     "2 2 2 2 2 2 2 2 2 2 2 2 2 2 2 2 2 2 2 2 2 2+1 2 2 4+1 2 2+1 2+2 3+3 2+1 2+2 4+1 2+1 2 2 2+1",
     "2 3 2+1 2+2 2 2+1 4 8 3 3 3 2 2 2 2 2 2 2 3 2 2 2 2 2 2 2 2 3 3 2+2 2 2 2 2 2 2 2 2 2 2 2 2",
     "2 2 2 2 2 2 2 2 2 2 2 2 2 2 2 2 2 8+1 2+1 3 2+3 2 2 2 2 122 2 4 9 7 2+2 2 2+1 2+10 2+8 24",
     "3+2 4 2 2 2 2 2 2 2 2 2 2 2 6 3 2+1 3+32 31 2 2 2 2 2 2 2 2 2 2 2 2 2 2 2 2 a 2 2 2 2 2 2 2",
     "2 2 2 2 2 2 2 2 2 2 2 2 2 2 2 2 2 2 2 2+1 2 2 2 2 2 2 3 2 2 2 2 2 2 2 2 2 2 2 2 2 2 2 2 2 2",
     "2 2 2 2 2 2 2 2 2 2 2 2 2 2 2 2 2 2 2 2 2 2 2 2 2 2 2 2 2 3+25 b4a+25 2 6 2d3+55 89b+2a 3+2",
     "141 2 2 2 2 2 2 2 2 2 2 2 2 2 2 2 2 2 2 2 2 2 2 2 2 2 2 2 2 2 2 2 2 2 2 2 2 2 2 2 2 2 2 2 2",
     "2 2 2 2 2 2 2 2 2 2 2 2 2 2 2 2 2 2 2 2 2 2 2 2 2 2 2 2 2 2 a 2 2 2 2 2 2 2 2 2 2 2 2 2 2 2",
     "2 2 2 2 2 2 2 2 2 2 2 2 2 2 2 2 2 2 2 2 2 2 2 2 2 2 2 2 2 2 2 2 2 a+7 9+5 b+7 9+7 9+5 c 2 2",
     "2 9+7 49+3 d+3 d+3 d+4 c+3 107 5 4+2 3+2 3 4+4 7 2 2 2+3 3+3 b+1 6 3e a7d+2f 31 2+2 3 2 2",
     "2+3 2 3 9+2 2 2 2 2 2 2 2 2 2 2 2 2 2 2 2 2 2 2 2 2 2 2 2 2 2 2 2 2 2 2 2 2 2 2 2 2 2 2 2 2",
     "2 2 2 2 2 2 2 2 2 9 2 5 794e 2 2 2 2 2 2 2 2 2 2 2 2 2 2 2 2 2 2 2 2 2 2 14 2 2 2 2 2 2 2 2",
     "2 2 2 2 2 88 2 2 2 2 2 2 4 2 2 2 2 2 2 2 2 2 2 2 2 2 2 2 2 2 2 2 2 2 2 2 2 2 2 2 2 2 2 b 2",
     "2+1 2 2 2 2 5 2 3 2 4 2 2 2 2 2 2 2 2 2 2+4 2+4 2 2 2 2 2 2 2 2+3 2 7 6 2 1d 572c+19 4c6+27",
     "89+23 9d+a 2+e 2+6 2+1 6eb+32 bee+1f 5581+1f 65a1+19 1b+19 1b+19 1b 2+1 3 3+1 3+3 2+7 1b+19",
     "1b+1 2+3 3+7 2+6 1c+1 2+3 2+4 2 4+6 1c+19 1b+19 1b+19 1b+19 1b+19 1b+19 1f+18 22+18 22+18",
     "22+18 22+18 22 1136+21"]

/-- The characters of general category `Ll`. -/
def lowercaseLetter : CharClass := encoded
    ["61+19 3b 2a+17 2+7 2 2 2 2 2 2 2 2 2 2 2 2 2 2 2 2 2 2 2 2 2 2 2 2 2 2 2 2+1 2 2 2 2 2 2 2",
     "2+1 2 2 2 2 2 2 2 2 2 2 2 2 2 2 2 2 2 2 2 2 2 2 2 3 2 2+2 3 2 3 4+1 5 3 4+2 3 3 2 2 3 2+1 2",
     "3 4 2 3+1 3+2 7 3 3 2 2 2 2 2 2 2 2+1 2 2 2 2 2 2 2 2 2+1 3 2 4 2 2 2 2 2 2 2 2 2 2 2 2 2 2",
     "2 2 2 2 2 2 2 2 2 2 2 2 2 2 2+6 3 3+1 2 5 2 2 2 2+44 2+1a c2 2 4 4+2 13 1c+22 2+1 4+2 2 2 2",
     "2 2 2 2 2 2 2 2 2+4 2 3 3+1 34+2f 2 2 2 2 2 2 2 2 2 2 2 2 2 2 2 2 2 a 2 2 2 2 2 2 2 2 2 2 2",
     "2 2 2 2 2 2 2 2 2 2 2 2 2 2 2 3 2 2 2 2 2 2+1 2 2 2 2 2 2 2 2 2 2 2 2 2 2 2 2 2 2 2 2 2 2 2",
     "2 2 2 2 2 2 2 2 2 2 2 2 2 2 2 2 2 2 2 2 2 2 2 2 2 31+28 b48+2a 3+2 2f9+5 883+8 78+2b 40+c",
     "2+21 67 2 2 2 2 2 2 2 2 2 2 2 2 2 2 2 2 2 2 2 2 2 2 2 2 2 2 2 2 2 2 2 2 2 2 2 2 2 2 2 2 2 2",
     "2 2 2 2 2 2 2 2 2 2 2 2 2 2 2 2 2 2 2 2 2 2 2 2 2 2 2 2 2 2 2 2+8 2 2 2 2 2 2 2 2 2 2 2 2 2",
     "2 2 2 2 2 2 2 2 2 2 2 2 2 2 2 2 2 2 2 2 2 2 2 2 2 2 2 2 2 2 2 2 2 2 2 2+8 9+5 b+7 9+7 9+5",
     "b+7 9+7 9+d 3+7 9+7 9+7 9+4 2+1 7 4+2 2+1 9+3 3+1 9+7 b+2 2+1 113 4+1 4 1c 5 5 3+1 9+3 5 36",
     "aac+2f 2 4+1 2 2 2 5 2+1 2+5 6 2 2 2 2 2 2 2 2 2 2 2 2 2 2 2 2 2 2 2 2 2 2 2 2 2 2 2 2 2 2 2",
     "2 2 2 2 2 2 2 2 2 2 2 2 2 2 2 2 2 2+1 8 2 5 d+25 2 6 7914 2 2 2 2 2 2 2 2 2 2 2 2 2 2 2 2 2",
     "2 2 2 2 2 14 2 2 2 2 2 2 2 2 2 2 2 2 2 88 2 2 2 2 2 2+2 2 2 2 2 2 2 2 2 2 2 2 2 2 2 2 2 2 2",
     "2 2 2 2 2 2 2 2 2 2 2 2 2 2+7 2 2 3 2 2 2 2 5 2 3 2+2 2 2 2 2 2 2 2 2 2 2 6 6 2 2 2 2 2 2 2",
     "5 2 7 2 2 2 2 1d 4 336+2a 6+8 8+4f 4f41+6 d+4 42a+19 4ce+27 89+23 9c+a 2+e 2+6 2+1 704+32",
     "bce+1f 5581+1f 659b+19 1b+6 2+11 1b+19 1b+3 2 2+6 2+a 1b+19 1b+19 1b+19 1b+19 1b+19 1b+19",
     "1b+19 1b+19 1b+1b 1d+18 2+5 1b+18 2+5 1b+18 2+5 1b+18 2+5 1b+18 2+5 2 735+9 2+13 7+5 9f8+21"]

/-- The characters of general category `Lt`. -/
def titlecaseLetter : CharClass :=
  encoded ["1c5 3 3 27 1d96+7 9+7 9+7 d 10 30"]

/-- The characters of general category `Lm`. -/
def modifierLetter : CharClass := encoded
    ["2b0+11 5+b f+4 8 2 86 6 1df e7 a5+1 10e+1 5 20 a 4 a1 a8 4d5 80 236 6db 6c 264 1d1+5 af+3e e",
     "23+24 2b2 e 11+c be0+1 f2 c0 1d6 2c+4 6 62+1 5e+2 6f17 4e3+5 10f 73 1d+1 7a+8 51 18 6a+2 4+1",
     "1d6 17 8a 6d 16+1 68+3 a 5407 2e+1 7e1+5 2+29 2+8 6386+3 450+c 41+1 2 400d+3 2+6 2+1 3032+3d",
     "ca+6 3ae 460"]

/-- The characters of general category `Lo`. -/
def otherLetter : CharClass := encoded
    ["aa 10 101 5+3 d1 33c+1a 5+3 2e+1f 2+9 24+1 2+62 2 19+1 b+2 3 11 2+1d 1e+58 c 19+20 16+15",
     "2b+18 8+a 6+17 2+5 12+28 3c+35 4 13 8+9 11+e 5+7 3+1 3+15 2+6 2 4+3 4 11 e+1 2+2 f+1 b 9+5",
     "5+1 3+15 2+6 2+1 2+1 2+1 20+3 2 14+2 11+8 2+2 2+15 2+6 2+1 2+4 4 13 10+1 18 c+7 3+1 3+15 2+6",
     "2+1 2+4 4 1f+1 2+2 10 12 2+5 4+2 2+3 4+1 2 2+1 4+1 4+2 4+b 17 35+7 2+2 2+16 2+f 4 1b+2 3 3+1",
     "1f 5+7 2+2 2+16 2+9 2+4 4 20+1 2+1 10+1 12+8 2+2 2+28 3 11 6+2 9+2 19+5 6+11 4+17 2+8 2 3+6",
     "3b+2f 2+1 d+5 3c+1 2 2+4 2+17 2 2+9 2+1 a 3+4 18+3 21 40+7 2+23 1c+4 74+2a 15 11+5 5+3 4 4+1",
     "8+2 5+c d 72+148 2+3 3+6 2 2+3 3+28 2+3 3+20 2+3 3+6 2 2+3 3+e 2+38 2+3 3+42 26+f 72+26b",
     "3+10 2+19 6+4a 7+7 8+11 e+12 f+11 f+c 2+2 10+33 29 44+22 2+34 8+4 3+21 2 6+45 b+1e 32+1d 3+4",
     "c+2b 5+19 37+16 a+34 b1+2e 12+7 37+1d e+1 b+2b 1b+23 2a+2 b+1d 72+3 2+5 2+1 4 43b+3 bf8+37",
     "19+16 a+6 2+6 2+6 2+6 2+6 2+6 2+6 2+6 228 36 5+55 9 2+59 5 6+2a 2+5d 12+1f 31+f 201+19bf",
     "41+5214 2+476 44+27 9+10b 5+f b+1 43 32+45 aa 68 4+6 2+2 2+3 2+16 1e+33 f+31 3f+5 4 2+1 c+1b",
     "b+16 1a+1c 8+2e 2e+4 3+8 b+4 2+28 18+2 2+7 15+f 2+5 4 4+31 2 4+1 3+4 3 2 19+1 4+a 8 f+5 3+5",
     "3+5 a+6 2+6 92+22 1e+2ba3 d+16 5+30 2105+16d 3+69 44 2+9 2+c 2+4 2 2+1 2+1 2+6b 22+16a 13+3f",
     "3+35 29+b 75+4 2+86 6a+9 2+2c 3+1e 4+5 3+5 3+5 3+2 24+b 2+19 2+12 2+1 2+e 3+d 23+7a 186+1c",
     "4+30 30+1f e+13 2+7 7+25 b+1d 3+23 5+7 81+4d 63+27 9+33 9d+136 a+15 b+7 99+5 3 2+2b 2+1 4",
     "3+16 b+16 a+1e 42+12 2+1 b+15 b+19 47+37 7+1 41 10+3 2+2 2+1c 2b+1c 4+1c 24+7 2+1b 1c+35",
     "b+15 b+12 e+11 6f+48 b8+23 15d+29 7+1 4f+1c b 9+15 2b+11 2f+14 1c+16 d+34 3a+1 3 e+2c 21+18",
     "1b+23 1e 3 9+22 4 d+2f f+3 16 2 24+11 2+18 14+1 40+6 2 2+3 2+e 2+9 8+2e 27+7 3+1 3+15 2+6",
     "2+1 2+4 4 13 d+4 9f+34 13+3 15+2 1f+2f 15+1 2 b9+2e 2a+3 25+2f 15 3c+2a e 48+1a 26+6 ba+2b",
     "d4+7 3 3+7 2+1 2+17 10 2 5f+7 3+26 11 2 1d b+27 8 16 c+2d 14 13+48 108+8 2+24 12 32+1d 71+6",
     "2+1 2+25 16 1a+5 2+1 2+1f f 148+12 10 2+c 2+21 7d 50+399 e7+c3 a4d+60 10+42f 12+5 fba+246",
     "21ba+238 8+1e 12+4e 12+1d 13+2f 34+14 6+12 371+4a 6 b0+17f7 9+4d5 2b+8 22f8+122 10 1e+2 3",
     "f+3 9+18b 905+6a 6+c 4+8 8+9 2271 1f6+2c 22 142+1d 13+2b 1e5+1a 2f6+6 2+3 2+1 2+e 2+c4 53c+3",
     "2+1a 2+1 2 3 2+9 2+3 2 2 7 5 2 2 2+2 2+1 2 3 2 2 2 2 2+1 2 3+3 2+6 2+3 2+3 2 2+9 2+10 6+2",
     "2+4 2+10 1145+a6df 21+1039 7+dd 3+1681 f+1d30 c20+21d 5e3+134a 6+105f"]

/-- The characters of general category `Mn`. -/
def nonspacingMark : CharClass := encoded
    ["300+6f 114+4 10a+2c 2 2+1 2+1 2 49+a 31+14 11 66+6 3+5 3+1 2+3 24 1f+1a 5c+a 3b+8 a 19+3 2+8",
     "2+2 2+4 2c+2 3d+7 2b+17 2+1f 38 2 5+7 5 4+6 b+1 1e 3b 5+3 9 15+1 1b 3+1 3a 5+1 5+1 3+2 4",
     "1f+1 4 c+1 3a 5+4 2+1 5 15+1 17+5 2 3b 3 2+3 9 8+1 c+1 1f 3e d 33 4 38 2+2 6+2 2+3 8+1 c+1",
     "1e 3b 3 7 6+1 15+1 1d+1 3a+1 5+3 9 15+1 1e 49 8+2 2 5b 3+6 d+7 63 3+8 c+6 4a+1 1c 2 2 38+d",
     "2+4 2+1 6+a 2+23 a 67+3 2+5 2+1 3+1 1a+1 5+2 11+3 e 3+1 7 10 2c0+2 3b3+2 1e+1 1f+1 1f+1 41+1",
     "2+6 9 3+a a 2e+2 2 76+1 23 77+2 5+1 a 7+2 dc+1 3 3b 2+6 2 2 3+7 7+9 3 31+d 2+f 32+3 31 2+4 2",
     "6 29+8 d+1 21+3 3+1 2+2 39 2+1 4 2+2 3b+7 3+1 99+2 2+c 2+6 5 7 4+1 c7+3f 2d1+c 5 4+b bff+2",
     "8e 61+1f 22b+3 6c+1 75d5 5+9 21+1 51+1 111 4 5 1a+1 6 98+1 1b+11 e 27+7 1a+a 2f+2 31 3+3 3+1",
     "28 44+5 3+1 3+1 d 9 30 34 2+2 3+1 6+1 2 2b+1 9 ef 3 5 4f31 2e2+f 11+f 3ce e3 96+4 687+2 2+1",
     "6+3 29+2 5 a6+1 23e+3 184+1 51+2 47+a 32+3 7c 37+e 2a 3+1 b+2 32+3 3+1 8 3e+2 25+4 2+7 3f",
     "d+1 35+8 b+3 3 60+2 3 2+1 7 3 9e 4+7 16+1 3a+1 4 26+6 4+4 c4+7 3+2 2 18 55+5 2 5+1 2+1 ef+3",
     "7+1 2+1 1c+1 56+7 3 2+1 6b 2 3+5 2 66+2 3+3 2+4 104+8 2+1 101+1 2 5 91+3 3+1 5 21+9 29+5 3+3",
     "9 a+5 3+2 2f+c 2+1 197+6 2+5 2 53+15 3+6 2+1 2+1 7b+5 4 2+1 2+6 2 49+1 4 2 15c+1 c+1 35+4 6",
     "2 14fe 7+e 369b+4 3c+6 419 40+3 52 4cb9+1 1262+2d 3+16 221+2 12+7 3+6 1f+3 95+2 7bc+36 5+31",
     "9 f 17+4 2+e 551+6 2+10 3+6 2+1 2+4 65 a1+6 178 3e+3 1fd+3 3e1+6 6e+6 c17b6+ef"]

/-- The characters of general category `Mc`. -/
def spacingMark : CharClass := encoded
    ["903 38 3+2 9+3 2+1 33+1 3b+2 7+1 3+1 b 2c 3b+2 43 3b+2 9 2+1 36+1 3b 2 7+1 3+1 b 67+1 2+1",
     "4+2 2+2 b 2a+2 3e+3 3e+1 3b 2+4 3+1 2+1 a+1 1d f+1 3b+2 6+2 2+2 b 2b+1 4c+2 7+7 13+1 14b+1",
     "40 ac+1 5 7 3+1 1a+1 b+2 3+6 16+1 3+5 3 b+2 679 1f 82 8+7 2+1 15b+3 3+2 5+1 2+5 e1+1 3b 2 a",
     "2+1 9+5 92 31 6 2+4 2+1 3e 1f 5+1 3 3d 3+2 2 4+1 31+7 9+1 ac 16 1337+1 77f4+1 3 59+1 33+f",
     "8f+1 30 31+1 5+1 3+2 6f+1 3+1 19 2e 2 6e 3+1 6 ee+1 2+1 2+1 2 6414 2 80 2e+2 5+1 74 19+1 3c",
     "31+2 a+1 e 5e+2 4+1 2 ab+2 20+1 3b+1 2+3 3+1 3+2 a b+1 d2+2 9+1 4 6b+2 7 2+3 3 ee+2 7+3 3",
     "72+2 9+1 2 6e 2+1 7 6a+1 5 106+2 a f8+5 2+1 5 3 2 8f+2 9+3 5 55 1e+1 3f 198 f 6b 8 3 d6+4",
     "5+1 2 15f+1 d 31+1 9+1 2 5010+36 69+1 6174+1 7+5"]

/-- The characters of general category `Me`. -/
def enclosingMark : CharClass :=
  encoded ["488+1 1635 61f+3 2+2 858c+2"]

/-- The characters of general category `Nl`. -/
def letterNumber : CharClass :=
  encoded ["16ee+2 a70+22 3+3 e7f 1a+8 f+2 76ac+9 5a51+34 1cd 9 87+4 202b+6e"]

/-- The characters of general category `No`. -/
def otherNumber : CharClass := encoded
    ["b2+1 6 3+2 936+5 179+5 79+2 86+6 da+6 12+8 1b2+9 436+13 474+9 1e1 696 4+5 7+9 c7+f 2a 2d7+3b",
     "4f+15 277+1d 56a 495+3 8b+9 1f+7 2+e 21+9 28+e 7571+5 58d2+2c 42+3 12+1 156+1a 25+3 535+7",
     "1a+6 28+8 4c+4 17+5 a1+1 3+f 3+2d 41+8 35+1 1f+2 4c+4 69+7 19+7 2a+6 14b+5 161+1e 9f+9 2b+3",
     "71+6 87+13 17c+13 546+1 1af+8 368+12 354+14 4b87+6 31f+16 642a+13 d+13 6d+18 154f+8 3a2+3a",
     "2+2 2+3 4d+2c 2+e 3c3+c"]

/-- The characters of general category `Pc`. -/
def connectorPunctuation : CharClass :=
  encoded ["5f 1fe0+1 14 dddf+1 19+2 f0"]

/-- The characters of general category `Pd`. -/
def dashPunctuation : CharClass :=
  encoded ["2d 55d 34 e42 406 80a+5 e02 3 20+1 5 1d 1bf 14 70 cd91+1 26 b aa fa0"]

/-- The characters of general category `Ps`. -/
def openPunctuation : CharClass := encoded
    ["28 33 20 ebf 2 75f 97f 4 27 38 10 27b 2 1f 43f 2 2 2 2 2 2 51 21 2 2 2 2 195 2 2 2 2 2 2 2 2",
     "2 2 41 2 22 426 2 2 2 1a 13 2 2 2 1ad 2 2 2 2 4 2 2 2 3 cd22 d8 1e 2 2 2 2 2 2 2 4 12 2 2 ab",
     "33 20 4 3"]

/-- The characters of general category `Pe`. -/
def closePunctuation : CharClass := encoded
    ["29 34 20 ebe 2 75f 9aa 38 10 27b 2 1f 43f 2 2 2 2 2 2 51 21 2 2 2 2 195 2 2 2 2 2 2 2 2 2 2",
     "41 2 22 426 2 2 2 2d 2 2 2 1ad 2 2 2 2 4 2 2 2 3+1 cd1f da 1e 2 2 2 2 2 2 2 4 12 2 2 ab 34",
     "20 3 3"]

/-- The characters of general category `Pi`. -/
def initialPunctuation : CharClass :=
  encoded ["ab 1f6d 3+1 3 1a dc9 2 5 3 10 4"]

/-- The characters of general category `Pf`. -/
def finalPunctuation : CharClass :=
  encoded ["bb 1f5e 4 1d dc9 2 5 3 10 4"]

/-- The characters of general category `Po`. -/
def otherPunctuation : CharClass := encoded
    ["21+2 2+2 3 2 2+1 b+1 4+1 1c 45 6 f+1 8 2bf 9 1d3+5 2a 37 3 3 2d+1 15+1 2+1 e 2+2 4b+3 67",
     "2c+d ea+2 37+e 20 106+1 b 8d 79 7a 187 d 170 5b b+1 a9+e 2 71 4b+4 5+1 70+5 ac 265+8 306",
     "7d+2 48+1 9e+2 2+2 26+5 2+3 13a+1 d9+1 81+6 2+5 ad+6 1d+1 7e+3 3c+4 3f+1 41+7 c 343+1 9+7",
     "9+8 3+3 3+2 4+a 2 2+9 c9b+3 2+1 71 90+1 5+2 3 3+8 2+1 2 3+1 b+4 2+9 3+3 2 2+c 3+2 1ad+2 3a",
     "be 7403+1 10e+2 64 b 74+5 17d+3 57+1 29+2 2 32+1 30 62+c 11+1 7d+3 7f+1 11+1 fa 5225+6 3 17",
     "15+1 3+3 4+2 2+3 8+2 7 2+1 96+2 2+2 3 2 2+1 b+1 4+1 1c 25 3+1 19b+2 29d 31 19f 2e8 c8 20",
     "111+8 27 71+6 43+6 5a+3 3b9+4 2d+3 be+6 6e+1 2+3 7f+3 31+1 50+3 5 e 2+2 59+5 6c 1a2+4 b+1 2",
     "69 fb+16 6a+2 1d+c 4d 83+2 fd 109+2 9c 5d+7 54+2 2+4 5e+9 138+4 2b+1 286+1 4b+c b0 471+4",
     "b7d+1 3a7c+1 86 42+4 9 353+3 148 4cbd 1de8+4 ed3+1"]

/-- The characters of general category `Sm`. -/
def mathSymbol : CharClass := encoded
    ["2b 11+2 3e 2 2e 5 26 20 2ff 210+2 1a3c e 28+2 e+2 8c 28+4 7 45+4 6+1 5 3 3 8 20+1 3 2 20+10b",
     "21+1 5b 1f+18 29+5 1d6 a 37+7 70 151+4 3+1e b+f 101+82 17+3e 5+1f 3+101 31+14 3+5 cfdd 339",
     "2+2 a5 11+2 3e 2 84 7+3 d6d5 1a 20 1a 20 1a 20 1a 20 1a 172d+1"]

/-- The characters of general category `Sc`. -/
def currencySymbol : CharClass := encoded
    ["24 7e+3 4ea 7c 1f3+1 1f3+1 8 f6 108 246 99c 8c5+20 8778 55c4 6d 9b dc+1 4+1 1ff7+3 c31f 9b1"]

/-- The characters of general category `Sk`. -/
def modifierSymbol : CharClass := encoded
    ["5e 2 48 7 5 4 20a+3 d+d 6+6 2 2+10 76 f+1 503 1735 2+2 c+2 e+2 e+2 e+1 109d+1 7664+16 a+1",
     "68+1 3d1 f+1 5047+10 37c 2 a3 f418+4"]

/-- The characters of general category `So`. -/
def otherSymbol : CharClass := encoded
    ["a6 3 5 2 3d2 10b+1 80+1 cf b 14+1 f8 204 176 83+5 2 85 d0 2a 188+2 10 2+2 3+5 15 2 2 86+7",
     "2+5 2+1 6+3 c6+1 2f1+9 2d4 2d3 9e+21 162+9 a+8 584+1 2+3 2+1 b 2+1 7+5 2 2 2 5 c+1 f 2+1 2",
     "3b+1 a+4 3+3 2+1 2+1 2+6 2+1e 3+1 2 2+1e 10d+7 5+13 3+6 3+50 2+1d 1a+27 7+44 1a+a 52+4d",
     "17+b6 2+8 2+35 9+6e 2+f7 2d+2b 41+ff 201+2f 16+1 7+26 3+1f 2+68 e6+5 166+1 2f+19 2+58 d+d5",
     "1b+b 9 e+1 d 16+1 7+1 151+1 5+9 21+23 1d+1e c+1d 9 10+1f b+26 10+13f 19c1+3f 5691+36 362+3",
     "b+1 2 23e+2 52c7+f 80 2e+2 1e5 4 5+1 e+1 13a+8 3a+10 3+2 2+c 4 30+2c 67b+1 250 c77 896+7",
     "5+10 4b4b+3 6 5157 12b4+73 3d+f5 b+26 3+3b 6+2 17+1 8+1d 5+3c 16+41 4 bb+56 4aa+1ff 38+3",
     "33+7 2+d 2+1 6c9 b5d 82 2d2+2b 5+63 d+e 3+e 2+e 2+24 18+a0 39+1c e+2b 5+8 8+1 f+5 9b+fa",
     "6+2d7 5+10 4+c 4+76 5+5e 7+b 5 10+b 5+37 9+9 7+27 9+1d 3+1 4f+153 d+d 3+c 4+8 8+2d 2+6 9+d",
     "5+8 8+8 8+92 2+36"]

/-- The characters of general category `Zs`. -/
def spaceSeparator : CharClass :=
  encoded ["20 80 15e0 980+a 25 30 fa1"]

/-- The characters of general category `Zl`. -/
def lineSeparator : CharClass :=
  encoded ["2028"]

/-- The characters of general category `Zp`. -/
def paragraphSeparator : CharClass :=
  encoded ["2029"]

/-- The characters of general category `Cc`. -/
def control : CharClass :=
  encoded ["0+1f 60+20"]

/-- The characters of general category `Cf`. -/
def format : CharClass := encoded
    ["ad 553+5 17 c1 32 181+1 51 f2c 7fd+4 1b+4 32+4 2+9 de90 fa+2 10c2 10 2363+f 8861+3 14d0+7",
     "c2e87 1f+5f"]

/-- The characters of general category `Co`. -/
def privateUse : CharClass :=
  encoded ["e000+18ff e0701+fffd 3+fffd"]

/-! ### Further properties -/

/-- The characters with the property `Bidi_Control`. -/
def bidiControl : CharClass :=
  encoded ["61c 19f2+1 1b+4 38+3"]

/-- The characters with the property `Dash`. -/
def dash : CharClass :=
  encoded ["2d 55d 34 e42 406 80a+5 3e 28 10 187 c05 3 20+1 5 1d 1bf 14 70 cd91+1 26 b aa fa0"]

/-- The characters with the property `Deprecated`. -/
def deprecated : CharClass :=
  encoded ["149 52a 904 2 82a+1 8c6+5 2ba+1 ddcd7"]

/-- The characters with the property `Diacritic`. -/
def diacritic : CharClass := encoded
    ["5e 2 48 7 5 3+1 1f8+9e 2+7 6+5 12+1 5 a+1 fe+4 d2 38+10 2+1a 2 2+1 2 87+7 5+1 87+1 5+1 4+2",
     "44+1a 5c+a 3b+a 23+1 7f+7 2a+9 11+1b 3e 11 4+3 1d 4b 11 6f 11 6f 11 30+2 3d 11 8 78 6f 11 6f",
     "11 6e+1 11 7d 7d+5 2 6c e+4 4c+1 1c 2 2 5+1 43+2 2+1 3f 71 2+1 29+1 5+4 1a+6 2 b+1 2c2+2",
     "3b5+1 b4+a a 15c+2 13a+7 3 31+e 3+a 69 10 27+8 37+1 8b+1 41+5 53+18 5 7 3+2 33+3e 5a+b 26+a",
     "1be 2+2 c+2 e+2 e+2 e+1 cf1+2 13e 1fb+5 6a+3 60 7573 d+1 2 1d+1 53+1 f+21 67+2 6e+1 cb 1c+11",
     "3a+3 25 60 d 25 96+2 42+3 34 65+4 a+2 81+1 4f31 302+f 10f 2 30 2e+1 44 2fd 4a0+5 2+29 2+8",
     "32b+1 23c+5 1d6+2 47+a 32+3 c1 2a 49+1 79+1 3f 4d a+2 69+1 b3+1 52 11 19+6 4+4 ce 4 7c+1",
     "fc+1 7f 77+1 74 10e+1 103+1 5 9d 54 13 52 1a6 103 2+1 52 16b0+e 369b+4 3c+6 459+10 51+1",
     "3fff+3 2+6 2+1 1f02+2d 3+16 221+2 4+5 9+7 3+6 1f+3 e83+3d c3+6 178 3e+3 5e1+6 6e+2 2+2"]

/-- The characters with the property `Emoji`. -/
def emoji : CharClass := encoded
    ["23 7 6+9 70 5 1f8e d d9 17 5b+5 10+1 170+1 d a7 1a+a 5+2 c8 e8+1 b a 3b+3 2+4 a 3 3+1 3 5 3",
     "2+1 3 4 4+1 9+2 6 2 6+b c+1 3 2+1 2 13 3+1 13+5 2 2+1 4+1 6 3+1 5+1 c+1 6+1 3 6+1 2 2+1 15+1",
     "6+5 2+3 3 5 3 3+5 2 3 2 2 7 4 7 b+1 10 3 5 2 5+2 2 c+1 31+2 a f f 175+1 1d0+2 14+1 34 5 4db",
     "d 25a 2 1bd6b cb a1+1 d+1 f 3+9 4c+19 2+1 18 15 3+8 16+1 af+21 3+6f 3+1 2+2 3+52 3+2 2+106",
     "2+3e c+5 2+17 8+1 3+7 d 3+3 3 5+1 e+1 3 9+1 a 6+2 d+2 9+2 3 2 5 7 4 7+55 31+45 6+7 3+2 5+9 4",
     "2+1 4 3+9 e4+b 5 11c+2e 2+9 2+b8 71+c 4+8 8+2d 2+6 9+d 5+8 8+8"]

/-- The characters with the property `Emoji_Component`. -/
def emojiComponent : CharClass :=
  encoded ["23 7 6+9 1fd4 d6 dd2c f3d7+19 1fc+4 5b1+3 c066d+5f"]

/-- The characters with the property `Emoji_Modifier_Base`. -/
def emojiModifierBase : CharClass := encoded
    ["261d dc 11+3 1cc78 3d+2 3 3+2 76+1 3+a 16+12 4 5+2 2+2 8 2 19 ca+1 5 16 5+1 af+2 4+4 54 11+2",
     "a c 240 3 9+7 7 a+9 3+2 39 3e+1 2+1 2 12+2 2+c e6+2 2b+8"]

/-- The characters with the property `Emoji_Presentation`. -/
def emojiPresentation : CharClass := encoded
    ["231a+1 ce+3 4 3 20a+1 16+1 33+b 2c 14 e 9+1 12+1 6+1 9 6 16 8+1 2 5 3 8 5+1 1d 24 2 5+2 2",
     "3e+2 19 f 35c+1 34 5 1c4af cb bf 3+9 4c+19 2 19 15 3+4 2+2 16+1 af+20 d+8 2+45 2+15 d+2a 5+4",
     "d+10 4 4+46 2 2+ba 3+3e e+3 2+17 13 1b+1 e 57+54 31+45 7 4+2 3+2 5+3 c+1 8+8 e4+b 5 11c+2e",
     "2+9 2+b8 71+c 4+8 8+2d 2+6 9+d 5+8 8+8"]

/-- The characters with the property `Extended_Pictographic`. -/
def extendedPictographic : CharClass := encoded
    ["a9 5 1f8e d d9 17 5b+5 10+1 170+1 d 60 47 1a+a 5+2 c8 e8+1 b a 3b+3 2+5 2+b 2+71 b+75 3+a 2",
     "2 7 4 7 b+1 10 3 5 2 5+2 2 c+4 2e+2 a f f 175+1 1d0+2 14+1 34 5 4db d 25a 2 1bd67+ff e+2 20",
     "3d+5 d+1 f 3+9 13+38 1c+e b 15 3+8 2+3 a+1b1 6+13d 9+109 31+7f 75+b 56+2a d+3 39+7 b+5 29+7",
     "1f+51 d+2e 2+9 2+1b8 101+3fd"]

/-- The characters with the property `Extender`. -/
def extender : CharClass := encoded
    ["b7 219+1 36f 1ba 35b 2f1 80 944 39 264 18f 45 138a 2c+4 68+1 5e+2 6f17 5f7 3c3 17 8a 6d 16+1",
     "547c 811+1 bdb 269+2 4d0 50aa+1 49d+1 2 7159+1 807+2"]

/-- The characters with the property `Grapheme_Link`. -/
def graphemeLink : CharClass := encoded
    ["94d 80 80 80 80 80 80 80 6e+1 11 7d 70 80 ca b5+1 6da+1 1f 9e 28e e4 66+1 47+1 118c 7a87 26",
     "98 8f 6d 136 f7 5e52 607 2a f 3a 7a+1 8c 75 b5 63 f5 80 fd 80 77 75 10e 104+1 a2 54 13 52",
     "1a6 105+1 52 1aa+1"]

/-- The characters with the property `Hex_Digit`. -/
def hexDigit : CharClass :=
  encoded ["30+9 8+5 1b+5 feaa+9 8+5 1b+5"]

/-- The characters with the property `Hyphen`. -/
def hyphen : CharClass :=
  encoded ["2d 80 4dd 127c 80a+1 e06 2e4 cd68 aa 58"]

/-- The characters with the property `Ideographic`. -/
def ideographic : CharClass := encoded
    ["3006+1 1a+8 f+2 3c6+19bf 41+51ff 5901+16d 3+69 750b 1c+17f7 9+4d5 2b+8 2468+18b 4d05+a6df",
     "21+1039 7+dd 3+1681 f+1d30 c20+21d 5e3+134a 6+105f"]

/-- The characters with the property `IDS_Binary_Operator`. -/
def idsBinaryOperator : CharClass :=
  encoded ["2ff0+1 3+7"]

/-- The characters with the property `IDS_Trinary_Operator`. -/
def idsTrinaryOperator : CharClass :=
  encoded ["2ff2+1"]

/-- The characters with the property `Logical_Order_Exception`. -/
def logicalOrderException : CharClass :=
  encoded ["e40+4 7c+4 af1+2 3 90fb+1 3 2+1"]

/-- The characters with the property `Other_Default_Ignorable_Code_Point`. -/
def otherDefaultIgnorable : CharClass :=
  encoded ["34f e10+1 654+1 8b0 10ff ce3c 50+8 d0008 2+1d 61+7f f1+e0f"]

/-- The characters with the property `Other_Grapheme_Extend`. -/
def otherGraphemeExtend : CharClass := encoded
    ["9be 19 167 19 67 19 eb 13+1 68 19 78 10 d56 4d7 1022+1 cf6f+1 139f 19 159 d f2 381 b835 9+4",
     "c2eae+5f"]

/-- The characters with the property `Other_ID_Continue`. -/
def otherIdContinue : CharClass :=
  encoded ["b7 2d0 fe2+8 669"]

/-- The characters with the property `Other_ID_Start`. -/
def otherIdStart : CharClass :=
  encoded ["1885+1 892 16 f6d+1"]

/-- The characters with the property `Other_Lowercase`. -/
def otherLowercase : CharClass := encoded
    ["aa 10 1f6+8 8+1 1f+4 61 35 d82 c30+3e e 23+24 2b2 e 11+c d4+f 351+19 793+1 7a1f+1 d3 82+2",
     "4+1 363+3 a 5c17 3+2 2+29 2+8 d876+3d"]

/-- The characters with the property `Other_Math`. -/
def otherMath : CharClass := encoded
    ["5e 372+2 3 1b+1 3+1 1c21 1c+2 c 21+3 19+1 f+1 42+c 5 4+1 5+4 13 5 3+9 2 4+4 7 4+1 3+1 2+2",
     "2+5 4+3 6+4 4c+4 3+3 2+1 2+1 2 2+4 3+1 5+1 5+11 3+1 2 2+6 2 7+1 123+3 a9+1 2 19 12 1be+1 d+8",
     "6+4 6+1 3+1 4+4 f 2 3+5 19+1 3a 2 1e+3 a+1 157+1 20+9 194+15 40+3 21+1 d464 2 5 d4 2 d4c2+54",
     "2+46 2+1 3 3+1 3+3 2+b 2 2+6 2+40 2+3 3+7 2+6 2+1b 2+3 2+4 2 4+6 2+153 3+18 2+18 2+1e 2+18",
     "2+1e 2+18 2+1e 2+18 2+1e 2+18 2+7 3+31 1601+3 2+1a 2+1 2 3 2+9 2+3 2 2 7 5 2 2 2+2 2+1 2 3 2",
     "2 2 2 2+1 2 3+3 2+6 2+3 2+3 2 2+9 2+10 6+2 2+4 2+10"]

/-- The characters with the property `Other_Uppercase`. -/
def otherUppercase : CharClass :=
  encoded ["2160+f 347+19 1cc61+19 7+19 7+19"]

/-- The characters with the property `Pattern_Syntax`. -/
def patternSyntax : CharClass := encoded
    ["21+e b+6 1b+3 2 1b+3 23+6 2 2+1 2 2+1 5 5 4 18 20 1f19+17 9+e 3+12 2+9 132+2cf a1+275 1f+46b",
     "201+7f 182+2 5+18 10 cd0e+1 106+1"]

/-- The characters with the property `Pattern_White_Space`. -/
def patternWhiteSpace : CharClass :=
  encoded ["9+4 13 65 1f89+1 19+1"]

/-- The characters with the property `Prepended_Concatenation_Mark`. -/
def prependedConcatenationMark : CharClass :=
  encoded ["600+5 d8 32 181+1 51 107db 10"]

/-- The characters with the property `Quotation_Mark`. -/
def quotationMark : CharClass :=
  encoded ["22 5 84 10 1f5d+7 1a+1 e08 1ca+3 e+2 ce22+3 be 5 5b+1"]

/-- The characters with the property `Radical`. -/
def radical : CharClass :=
  encoded ["2e80+19 2+58 d+d5"]

/-- The characters with the property `Sentence_Terminal`. -/
def sentenceTerminal : CharClass := encoded
    ["21 d 11 54a 94+2 b5 2c+2 f7 3e 2 4+1 126+1 6e5+1 317 5+1 306 c7+1 cd 6 13b+1 163+3 af+1 3+1",
     "1e+1 bd+1 42+1 3bd+1 a+2 de5 e 17+1 1ae 74fd 10f+1 e4 4 17f+1 57+1 60 99+1 94+2 91+1 fa 5267",
     "4+1 aa d 11 42 af5+1 4fe+4 2d+3 be+1 76+3 80+2 82+1 7 11+1 59+1 2+1 6d 1a2+1 176+1 6+e 6a+1",
     "fa+2 206 2 fc+1 58+1 1a5+1 2b5+1 4b+1 4b2a+1 86 42+1 c 354 4e07 1de9"]

/-- The characters with the property `Soft_Dotted`. -/
def softDotted : CharClass := encoded
    ["69+1 c5 11a 1f 35 15 141 63 2 190a 34 e 4 85 9e 1a6 d7+1 b33 1a7a6+1 33+1 33+1 33+1 33+1",
     "33+1 33+1 33+1 33+1 33+1 33+1 33+1 33+1 887 132+1 1b"]

/-- The characters with the property `Terminal_Punctuation`. -/
def terminalPunctuation : CharClass := encoded
    ["21 b 2 c+1 4 33f 9 202 3a 49 f 2+2 b5 2c+a 2 ec+1 37+e 20 106+1 4f5+1 ad 5+5 138+1 316+7 306",
     "7d+2 48+1 9e+2 4 28+3 3+1 13b+1 163+3 af+1 2+2 1e+1 bd+4 3f+1 3bd+1 a+2 de5 e 5 b 2+1 4+1",
     "1ad+1 74fc+1 10e+2 e4+4 17f+1 57+1 60 98+2 94+2 80 11+1 fa 5265+2 2+3 aa b 2 c+1 4 42 3 43b",
     "31 487 c8 137+1 99+5 45+5 5a+3 3b9+4 2d+3 be+6 71+3 80+2 82+1 7 11+1 59+4 6d 1a2+2 d+1 167+3",
     "4+e 6a+1 fa+2 206 2 fc+1 58+1 5+1 19f+2 2e 286+1 4b+1 52c+4 45fa+1 86 42+2 b 353+1 4e07",
     "1de8+3"]

/-- The characters with the property `Unified_Ideograph`. -/
def unifiedIdeograph : CharClass := encoded
    ["3400+19bf 41+51ff 5a0f+1 2 2+1 b 2 2+1 3+2 105d7+a6df 21+1039 7+dd 3+1681 f+1d30 1420+134a",
     "6+105f"]

/-- The characters with the property `Variation_Selector`. -/
def variationSelector : CharClass :=
  encoded ["180b+2 2 e5f1+f d02f1+ef"]

/-! ### Identifiers, case and text boundaries -/

/-- The characters that start identifiers but no normalized ones. -/
def unstableStart : CharClass :=
  encoded ["37a ab9 80 21e8+1 cbc2+5 197+1 75 2 2 2 2 2 2 2 120+1"]

/-- The characters that continue identifiers but no normalized ones. -/
def unstableContinue : CharClass :=
  encoded ["37a 2d21+1 cbc2+5 197+1 75 2 2 2 2 2 2 2"]

/-- The characters that case folding only changes into several characters. -/
def foldsToSeveral : CharClass :=
  encoded ["df 51 19 43e 1913 e6+7 9+7 9+7 b+2 3 b+2 3 2b+2 3 db09+6 d+4"]

/-- The letters that begin a cluster of characters. -/
def prependLetter : CharClass :=
  encoded ["d4e 10474+1 77c 2 f9 4a+5 2bd 1bc"]

/-- The marks of general category `Mc` that stand by themselves. -/
def looseMark : CharClass :=
  encoded ["102b+1 c 2a+2 3+6 16 4+5 3 b+2 9c5 2+1 9017 2 6ca3+1"]

/-- The characters of words that are letters though not alphabetic. -/
def letterLike : CharClass :=
  encoded ["2c2+3 d+5 7+1 6+6 2 2+10 25b+2 2 2c 69 a115+e a+1 68+1 3d1"]

/-- The characters of words that go with Katakana. -/
def katakanaLike : CharClass :=
  encoded ["3031+4 66+1 4 5c ce74"]

/-- The characters that connect words with figures. -/
def extendNumLet : CharClass :=
  encoded ["5f 1fd0 10+1 14 dddf+1 19+2 f0"]

/-- The characters that stand between letters of a word. -/
def midLetter : CharClass :=
  encoded ["3a 7d 2d0 1d8 95 1a33 ddec 42 c5"]

/-- The characters that stand between figures of a number. -/
def midNum : CharClass :=
  encoded ["2c f 343 20b 83+1 5f 18c 184c ddcc 4 3c 4 b8 f"]

/-- The characters that stand between letters or figures. -/
def midNumLet : CharClass :=
  encoded ["2e 1fea+1 b de2e b5 7"]

/-- The spaces that stay together. -/
def wordSpace : CharClass :=
  encoded ["20 1660 980+6 2+2 55 fa1"]

/-- The characters that may end a sentence as a full stop does. -/
def periodLike : CharClass :=
  encoded ["2e 1ff6 de2e bc"]

/-- The characters that continue a sentence. -/
def sentenceContinue : CharClass :=
  encoded ["2c+1 d 523 af+1 1eb 100a 6 80b+1 fed ce0f+1 2 1e+1 1e+1 4 3 b a9+1 d 4a"]

/-- The characters that close a sentence besides brackets and quotation marks. -/
def closeLike : CharClass :=
  encoded ["22 5 2734+5 6a0+1 5+2 3 1c86b+2"]

/-! ### Scripts and ages -/

/-- The scripts, each with its characters. -/
def scripts : List NamedClass :=
  [⟨["adlm", "adlam"], encoded ["1e900+4b 5+9 5+1"]⟩,
   ⟨["aghb", "caucasianalbanian"], encoded ["10530+33 c"]⟩,
   ⟨["ahom"], encoded ["11700+1a 3+e 5+16"]⟩,
   ⟨["arab", "arabic"], encoded
     ["600+4 2+5 2+d 2+2 2+1f 2+9 c+19 2+6b 2+21 51+2f f1+1e 2+1 7+49 2+1c f251+72 11+16a 3+4f",
      "3+35 8 21+f 71+4 2+86 f64+1e 7f+2 df01+3 2+1a 2+1 2 3 2+9 2+3 2 2 7 5 2 2 2+2 2+1 2 3 2 2",
      "2 2 2+1 2 3+3 2+6 2+3 2+3 2 2+9 2+10 6+2 2+4 2+10 35+1"]⟩,
   ⟨["armi", "imperialaramaic"], encoded ["10840+15 2+8"]⟩,
   ⟨["armn", "armenian"], encoded ["531+25 3+31 3+2 f584+4"]⟩,
   ⟨["avst", "avestan"], encoded ["10b00+35 4+6"]⟩,
   ⟨["bali", "balinese"], encoded ["1b00+4c 4+2e"]⟩,
   ⟨["bamu", "bamum"], encoded ["a6a0+57 c109+238"]⟩,
   ⟨["bass", "bassavah"], encoded ["16ad0+1d 3+5"]⟩,
   ⟨["batk", "batak"], encoded ["1bc0+33 9+3"]⟩,
   ⟨["beng", "bengali"], encoded ["980+3 2+7 3+1 3+15 2+6 2 4+3 3+8 3+1 3+3 9 5+1 2+4 3+18"]⟩,
   ⟨["bhks", "bhaiksuki"], encoded ["11c00+8 2+2c 2+d b+1c"]⟩,
   ⟨["bopo", "bopomofo"], encoded ["2ea+1 2e1a+2a 71+1f"]⟩,
   ⟨["brah", "brahmi"], encoded ["11000+4d 5+23 a"]⟩,
   ⟨["brai", "braille"], encoded ["2800+ff"]⟩,
   ⟨["bugi", "buginese"], encoded ["1a00+1b 3+1"]⟩,
   ⟨["buhd", "buhid"], encoded ["1740+13"]⟩,
   ⟨["cakm", "chakma"], encoded ["11100+34 2+11"]⟩,
   ⟨["cans", "canadianaboriginal"], encoded ["1400+27f 231+45 101bb+f"]⟩,
   ⟨["cari", "carian"], encoded ["102a0+30"]⟩,
   ⟨["cham"], encoded ["aa00+36 a+d 3+9 3+3"]⟩,
   ⟨["cher", "cherokee"], encoded ["13a0+55 3+5 9773+4f"]⟩,
   ⟨["chrs", "chorasmian"], encoded ["10fb0+1b"]⟩,
   ⟨["copt", "coptic", "qaac"], encoded ["3e2+d 2891+73 6+6"]⟩,
   ⟨["cpmn", "cyprominoan"], encoded ["12f90+62"]⟩,
   ⟨["cprt", "cypriot"], encoded ["10800+5 3 2+2b 2+1 4 3"]⟩,
   ⟨["cyrl", "cyrillic"], encoded ["400+84 3+a8 1751+8 a3 4d 1068+1f 7841+5f 578f+1 e201+3d 22"]⟩,
   ⟨["deva", "devanagari"], encoded ["900+50 5+e 3+19 9f61+1f 7201+9"]⟩,
   ⟨["diak", "divesakuru"], encoded ["11900+6 3 3+7 2+1 2+1d 2+1 3+b a+9"]⟩,
   ⟨["dogr", "dogra"], encoded ["11800+3b"]⟩,
   ⟨["dsrt", "deseret"], encoded ["10400+4f"]⟩,
   ⟨["dupl", "duployan"], encoded ["1bc00+6a 6+c 4+8 8+9 3+3"]⟩,
   ⟨["egyp", "egyptianhieroglyphs"], encoded ["13000+455"]⟩,
   ⟨["elba", "elbasan"], encoded ["10500+27"]⟩,
   ⟨["elym", "elymaic"], encoded ["10fe0+16"]⟩,
   ⟨["ethi", "ethiopic"], encoded
     ["1200+48 2+3 3+6 2 2+3 3+28 2+3 3+20 2+3 3+6 2 2+3 3+e 2+38 2+3 3+42 3+1f 4+19 19e7+16 a+6",
      "2+6 2+6 2+6 2+6 2+6 2+6 2+6 7d23+5 3+5 3+5 a+6 2+6 13cb2+6 2+3 2+1 2+e"]⟩,
   ⟨["geor", "georgian"], encoded ["10a0+25 2 6 3+2a 2+3 b91+2a 3+2 1041+25 2 6"]⟩,
   ⟨["glag", "glagolitic"], encoded ["2c00+5f 1b3a1+6 2+10 3+6 2+1 2+4"]⟩,
   ⟨["gong", "gunjalagondi"], encoded ["11d60+5 2+1 2+24 2+1 2+5 8+9"]⟩,
   ⟨["gonm", "masaramgondi"], encoded ["11d00+6 2+1 2+2b 4 2+1 2+8 9+9"]⟩,
   ⟨["goth", "gothic"], encoded ["10330+1a"]⟩,
   ⟨["gran", "grantha"], encoded ["11300+3 2+7 3+1 3+15 2+6 2+1 2+4 3+8 3+1 3+2 3 7 6+6 3+6 4+4"]⟩,
   ⟨["grek", "greek"], encoded
     ["370+3 2+2 3+3 2 5 2 2+2 2 2+13 2+3e f+f 1927+4 33+4 5+4 55 141+15 3+5 3+25 3+5 3+7 2 2 2",
      "2+1e 3+34 2+e 2+d 3+5 2+12 3+2 2+8 128 8a3f 55db+4e 12 d060+45"]⟩,
   ⟨["gujr", "gujarati"], encoded ["a81+2 2+8 2+2 2+15 2+6 2+1 2+4 3+9 2+2 2+2 3 10+3 3+b 8+6"]⟩,
   ⟨["guru", "gurmukhi"], encoded
     ["a01+2 2+5 5+1 3+15 2+6 2+1 2+1 2+1 3 2+4 5+1 3+2 4 8+3 2 8+10"]⟩,
   ⟨["hang", "hangul"], encoded
     ["1100+ff 1e2f+1 102+5d 72+1e 42+1e 76e2+1c 284+2ba3 d+16 5+30 27a5+1e 4+5 3+5 3+5 3+2"]⟩,
   ⟨["hani", "han"], encoded
     ["2e80+19 2+58 d+d5 30 2 1a+8 f+3 3c5+19bf 41+51ff 5901+16d 3+69 7509+1 d+1 900f+a6df 21+1039",
      "7+dd 3+1681 f+1d30 c20+21d 5e3+134a 6+105f"]⟩,
   ⟨["hano", "hanunoo"], encoded ["1720+14"]⟩,
   ⟨["hatr", "hatran"], encoded ["108e0+12 2+1 6+4"]⟩,
   ⟨["hebr", "hebrew"], encoded ["591+36 9+1a 5+5 f529+19 2+4 2 2+1 2+1 2+9"]⟩,
   ⟨["hira", "hiragana"], encoded ["3041+55 7+2 17f62+11e 13 1e+2 40ae"]⟩,
   ⟨["hluw", "anatolianhieroglyphs"], encoded ["14400+246"]⟩,
   ⟨["hmng", "pahawhhmong"], encoded ["16b00+45 b+9 2+6 2+14 6+12"]⟩,
   ⟨["hmnp", "nyiakengpuachuehmong"], encoded ["1e100+2c 4+d 3+9 5+1"]⟩,
   ⟨["hung", "oldhungarian"], encoded ["10c80+32 e+32 8+5"]⟩,
   ⟨["ital", "olditalic"], encoded ["10300+23 a+2"]⟩,
   ⟨["java", "javanese"], encoded ["a980+4d 3+9 5+1"]⟩,
   ⟨["kali", "kayahli"], encoded ["a900+2d 2"]⟩,
   ⟨["kana", "katakana"], encoded
     ["30a1+59 3+2 f1+f d1+2e 2+57 cc0f+9 2+2c b053+3 2+6 2+1 2 120+2 33 f+3"]⟩,
   ⟨["kawi"], encoded ["11f00+10 2+28 4+1b"]⟩,
   ⟨["khar", "kharoshthi"], encoded ["10a00+3 2+1 6+7 2+2 2+1c 3+2 5+9 8+8"]⟩,
   ⟨["khmr", "khmer"], encoded ["1780+5d 3+9 7+9 1e7+1f"]⟩,
   ⟨["khoj", "khojki"], encoded ["11200+11 2+2e"]⟩,
   ⟨["kits", "khitansmallscript"], encoded ["16fe4 1b1c+1d5"]⟩,
   ⟨["knda", "kannada"], encoded ["c80+c 2+2 2+16 2+9 2+4 3+8 2+2 2+3 8+1 7+1 2+3 3+9 2+2"]⟩,
   ⟨["kthi", "kaithi"], encoded ["11080+42 b"]⟩,
   ⟨["lana", "taitham"], encoded ["1a20+3e 2+1c 3+a 7+9 7+d"]⟩,
   ⟨["laoo", "lao"], encoded ["e81+1 2 2+4 2+17 2 2+16 3+4 2 2+6 2+9 3+3"]⟩,
   ⟨["latn", "latin"], encoded
     ["41+19 7+19 30 10 6+16 2+1e 2+1c0 28+4 1a1c+25 7+30 6+3 6+c 2+45 42+ff 172 e 11+c 8e+1 7 1c",
      "12+28 ad8+1f 7aa3+65 4+3f 6+1 2 2+4 19+d 331+2a 2+8 2+3 4f97+6 41b+19 7+19 826+5 2+29 2+8",
      "d746+1e 7+5"]⟩,
   ⟨["lepc", "lepcha"], encoded ["1c00+37 4+e 4+2"]⟩,
   ⟨["limb", "limbu"], encoded ["1900+1e 2+b 5+b 5 4+b"]⟩,
   ⟨["lina", "lineara"], encoded ["10600+136 a+15 b+7"]⟩,
   ⟨["linb", "linearb"], encoded ["10000+b 2+19 2+12 2+1 2+e 3+d 23+7a"]⟩,
   ⟨["lisu"], encoded ["a4d0+2f 7ab1"]⟩,
   ⟨["lyci", "lycian"], encoded ["10280+1c"]⟩,
   ⟨["lydi", "lydian"], encoded ["10920+19 6"]⟩,
   ⟨["mahj", "mahajani"], encoded ["11150+26"]⟩,
   ⟨["maka", "makasar"], encoded ["11ee0+18"]⟩,
   ⟨["mand", "mandaic"], encoded ["840+1b 3"]⟩,
   ⟨["mani", "manichaean"], encoded ["10ac0+26 5+b"]⟩,
   ⟨["marc", "marchen"], encoded ["11c70+1f 3+15 2+d"]⟩,
   ⟨["medf", "medefaidrin"], encoded ["16e40+5a"]⟩,
   ⟨["mend", "mendekikakui"], encoded ["1e800+c4 3+f"]⟩,
   ⟨["merc", "meroiticcursive"], encoded ["109a0+17 5+13 3+2d"]⟩,
   ⟨["mero", "meroitichieroglyphs"], encoded ["10980+1f"]⟩,
   ⟨["mlym", "malayalam"], encoded ["d00+c 2+2 2+32 2+2 2+5 5+f 3+19"]⟩,
   ⟨["modi"], encoded ["11600+44 c+9"]⟩,
   ⟨["mong", "mongolian"], encoded ["1800+1 3 2+13 7+58 8+2a fdb6+c"]⟩,
   ⟨["mroo", "mro"], encoded ["16a40+1e 2+9 5+1"]⟩,
   ⟨["mtei", "meeteimayek"], encoded ["aae0+16 ca+2d 3+9"]⟩,
   ⟨["mult", "multani"], encoded ["11280+6 2 2+3 2+e 2+a"]⟩,
   ⟨["mymr", "myanmar"], encoded ["1000+9f 9941+1e 62+1f"]⟩,
   ⟨["nagm", "nagmundari"], encoded ["1e4d0+29"]⟩,
   ⟨["nand", "nandinagari"], encoded ["119a0+7 3+2d 3+a"]⟩,
   ⟨["narb", "oldnortharabian"], encoded ["10a80+1f"]⟩,
   ⟨["nbat", "nabataean"], encoded ["10880+1e 9+8"]⟩,
   ⟨["newa"], encoded ["11400+5b 2+4"]⟩,
   ⟨["nkoo", "nko"], encoded ["7c0+3a 3+2"]⟩,
   ⟨["nshu", "nushu"], encoded ["16fe1 418f+18b"]⟩,
   ⟨["ogam", "ogham"], encoded ["1680+1c"]⟩,
   ⟨["olck", "olchiki"], encoded ["1c50+2f"]⟩,
   ⟨["orkh", "oldturkic"], encoded ["10c00+48"]⟩,
   ⟨["orya", "oriya"], encoded ["b01+2 2+7 3+1 3+15 2+6 2+1 2+4 3+8 3+1 3+2 8+2 5+1 2+4 3+11"]⟩,
   ⟨["osge", "osage"], encoded ["104b0+23 5+23"]⟩,
   ⟨["osma", "osmanya"], encoded ["10480+1d 3+9"]⟩,
   ⟨["ougr", "olduyghur"], encoded ["10f70+19"]⟩,
   ⟨["palm", "palmyrene"], encoded ["10860+1f"]⟩,
   ⟨["pauc", "paucinhau"], encoded ["11ac0+38"]⟩,
   ⟨["perm", "oldpermic"], encoded ["10350+2a"]⟩,
   ⟨["phag", "phagspa"], encoded ["a840+37"]⟩,
   ⟨["phli", "inscriptionalpahlavi"], encoded ["10b60+12 6+7"]⟩,
   ⟨["phlp", "psalterpahlavi"], encoded ["10b80+11 8+3 d+6"]⟩,
   ⟨["phnx", "phoenician"], encoded ["10900+1b 4"]⟩,
   ⟨["plrd", "miao"], encoded ["16f00+4a 5+38 8+10"]⟩,
   ⟨["prti", "inscriptionalparthian"], encoded ["10b40+15 3+7"]⟩,
   ⟨["rjng", "rejang"], encoded ["a930+23 c"]⟩,
   ⟨["rohg", "hanifirohingya"], encoded ["10d00+27 9+9"]⟩,
   ⟨["runr", "runic"], encoded ["16a0+4a 4+a"]⟩,
   ⟨["samr", "samaritan"], encoded ["800+2d 3+e"]⟩,
   ⟨["sarb", "oldsoutharabian"], encoded ["10a60+1f"]⟩,
   ⟨["saur", "saurashtra"], encoded ["a880+45 9+b"]⟩,
   ⟨["sgnw", "signwriting"], encoded ["1d800+28b 10+4 2+e"]⟩,
   ⟨["shaw", "shavian"], encoded ["10450+2f"]⟩,
   ⟨["shrd", "sharada"], encoded ["11180+5f"]⟩,
   ⟨["sidd", "siddham"], encoded ["11580+35 3+25"]⟩,
   ⟨["sind", "khudawadi"], encoded ["112b0+3a 6+9"]⟩,
   ⟨["sinh", "sinhala"], encoded ["d81+2 2+11 4+17 2+8 2 3+6 4 5+5 2 2+7 7+9 3+2 103ed+13"]⟩,
   ⟨["sogd", "sogdian"], encoded ["10f30+29"]⟩,
   ⟨["sogo", "oldsogdian"], encoded ["10f00+27"]⟩,
   ⟨["sora", "sorasompeng"], encoded ["110d0+18 8+9"]⟩,
   ⟨["soyo", "soyombo"], encoded ["11a50+52"]⟩,
   ⟨["sund", "sundanese"], encoded ["1b80+3f 101+7"]⟩,
   ⟨["sylo", "sylotinagri"], encoded ["a800+2c"]⟩,
   ⟨["syrc", "syriac"], encoded ["700+d 2+3b 3+2 111+a"]⟩,
   ⟨["tagb", "tagbanwa"], encoded ["1760+c 2+2 2+1"]⟩,
   ⟨["takr", "takri"], encoded ["11680+39 7+9"]⟩,
   ⟨["tale", "taile"], encoded ["1950+1d 3+4"]⟩,
   ⟨["talu", "newtailue"], encoded ["1980+2b 5+19 7+a 4+1"]⟩,
   ⟨["taml", "tamil"], encoded
     ["b82+1 2+5 4+2 2+3 4+1 2 2+1 4+1 4+2 4+b 5+4 4+2 2+3 3 7 f+14 113c6+31 e"]⟩,
   ⟨["tang", "tangut"], encoded ["16fe0 20+17f7 9+2ff 201+8"]⟩,
   ⟨["tavt", "taiviet"], encoded ["aa80+42 19+4"]⟩,
   ⟨["telu", "telugu"], encoded ["c00+c 2+2 2+16 2+f 3+8 2+2 2+3 8+1 2+2 3 3+3 3+9 8+8"]⟩,
   ⟨["tfng", "tifinagh"], encoded ["2d30+37 8+1 f"]⟩,
   ⟨["tglg", "tagalog"], encoded ["1700+15 a"]⟩,
   ⟨["thaa", "thaana"], encoded ["780+31"]⟩,
   ⟨["thai"], encoded ["e01+39 6+1b"]⟩,
   ⟨["tibt", "tibetan"], encoded ["f00+47 2+23 5+26 2+23 2+e 2+6 5+1"]⟩,
   ⟨["tirh", "tirhuta"], encoded ["11480+47 9+9"]⟩,
   ⟨["tnsa", "tangsa"], encoded ["16a70+4e 2+9"]⟩,
   ⟨["toto"], encoded ["1e290+1e"]⟩,
   ⟨["ugar", "ugaritic"], encoded ["10380+1d 2"]⟩,
   ⟨["vaii", "vai"], encoded ["a500+12b"]⟩,
   ⟨["vith", "vithkuqi"], encoded ["10570+a 2+e 2+6 2+1 2+a 2+e 2+6 2+1"]⟩,
   ⟨["wara", "warangciti"], encoded ["118a0+52 d"]⟩,
   ⟨["wcho", "wancho"], encoded ["1e2c0+39 6"]⟩,
   ⟨["xpeo", "oldpersian"], encoded ["103a0+23 5+d"]⟩,
   ⟨["xsux", "cuneiform"], encoded ["12000+399 67+6e 2+4 c+c3"]⟩,
   ⟨["yezi", "yezidi"], encoded ["10e80+29 2+2 3+1"]⟩,
   ⟨["yiii", "yi"], encoded ["a000+48c 4+36"]⟩,
   ⟨["zanb", "zanabazarsquare"], encoded ["11a00+47"]⟩,
   ⟨["zinh", "inherited", "qaai"], encoded
     ["300+6f 116+1 1c5+a 1b 2e1+3 115c+1e 202+2 2+c 2+6 5 7 4+1 c7+3f 20d+1 c3+20 f3a+3 6c+1",
      "cd66+f 11+d 3d0 e3 105b bbc5+2d 3+16 221+2 12+7 3+6 1f+3 c2f53+ef"]⟩,
   ⟨["zyyy", "common"], encoded
     ["0+40 1b+5 1b+2e 2+e 2+4 18 20 1c2+26 6+4 3+13 75 a 7 2 27e 7 f 4 21 9d 205 82+1 4da 196+3",
      "123 5f0+2 48+1 cc+1 2 4ce e 8+3 2+5 2+2 3 306+b 3+56 2+a 4+a 2+e 12+20 40+25 2+2 3+5 2+1a",
      "2+10 2a+2 5+296 1a+a 16+39f 101+273 3+1f 2+68 201+5d 193+b 5+4 2 2+18 10+7 5+3 5c+1 4",
      "5b+1 94+f 21+23 3d+3f 20+50 30 59+a7 19c1+3f 5901+21 67+2 a6+9 f5 a1 18c f+1 51d3+1 d1+9",
      "17+22 2+12 2+3 94 2+1f 1b+5 1b+a b 2e+1 41+6 2+6 b+4 103+2 5+2c 4+8 51+c 34+2c e5+1a",
      "b9a5+3 12ad+73 3d+f5 b+26 3+3d 4+10 9+1 8+1d 5+3c d6+13 d+13 d+56 a+18 88+54 2+46 2+1 3",
      "3+1 3+3 2+b 2 2+6 2+40 2+3 3+7 2+6 2+1b 2+3 2+4 2 4+6 2+153 3+123 3+31 1472+43 4d+3c",
      "2c3+2b 5+63 d+e 3+e 2+e 2+24 b+ad 39+19 2+1 e+2b 5+8 8+1 f+5 9b+3d7 5+10 4+c 4+76 5+5e",
      "7+b 5 10+b 5+37 9+9 7+27 9+1d 3+1 4f+153 d+d 3+c 4+8 8+2d 2+6 9+d 5+8 8+8 8+92 2+36 26+9",
      "c0408 1f+5f"]⟩]

/-- The characters that texts in other scripts than their own use, or in several scripts, by the
scripts that use them. -/
def sharedScripts : List NamedClass :=
  [⟨["grek"], encoded ["342 3 1a7b+1"]⟩,
   ⟨["latn"], encoded ["363+c"]⟩,
   ⟨["cyrl", "perm"], encoded ["483"]⟩,
   ⟨["cyrl", "glag"], encoded ["484 3 29bc 782c"]⟩,
   ⟨["cyrl", "latn"], encoded ["485+1"]⟩,
   ⟨["arab", "nkoo", "rohg", "syrc", "thaa", "yezi"], encoded ["60c f"]⟩,
   ⟨["arab", "syrc", "thaa"], encoded ["61c"]⟩,
   ⟨["adlm", "arab", "nkoo", "rohg", "syrc", "thaa", "yezi"], encoded ["61f"]⟩,
   ⟨["adlm", "arab", "mand", "mani", "ougr", "phlp", "rohg", "sogd", "syrc"], encoded ["640"]⟩,
   ⟨["arab", "syrc"], encoded ["64b+a 1b"]⟩,
   ⟨["arab", "thaa", "yezi"], encoded ["660+9"]⟩,
   ⟨["arab", "rohg"], encoded ["6d4"]⟩,
   ⟨["beng", "deva", "gran", "gujr", "guru", "knda", "latn", "mlym", "orya", "shrd", "taml", "telu",
     "tirh"], encoded
     ["951"]⟩,
   ⟨["beng", "deva", "gran", "gujr", "guru", "knda", "latn", "mlym", "orya", "taml", "telu",
     "tirh"], encoded
     ["952"]⟩,
   ⟨["beng", "deva", "dogr", "gong", "gonm", "gran", "gujr", "guru", "knda", "mahj", "mlym", "nand",
     "orya", "sind", "sinh", "sylo", "takr", "taml", "telu", "tirh"], encoded
     ["964"]⟩,
   ⟨["beng", "deva", "dogr", "gong", "gonm", "gran", "gujr", "guru", "knda", "limb", "mahj", "mlym",
     "nand", "orya", "sind", "sinh", "sylo", "takr", "taml", "telu", "tirh"], encoded
     ["965"]⟩,
   ⟨["deva", "dogr", "kthi", "mahj"], encoded ["966+9"]⟩,
   ⟨["beng", "cakm", "sylo"], encoded ["9e6+9"]⟩,
   ⟨["guru", "mult"], encoded ["a66+9"]⟩,
   ⟨["gujr", "khoj"], encoded ["ae6+9"]⟩,
   ⟨["gran", "taml"], encoded ["be6+d 1070e 2 38+1 c94+1 2"]⟩,
   ⟨["knda", "nand"], encoded ["ce6+9"]⟩,
   ⟨["cakm", "mymr", "tale"], encoded ["1040+9"]⟩,
   ⟨["geor", "latn"], encoded ["10fb"]⟩,
   ⟨["buhd", "hano", "tagb", "tglg"], encoded ["1735+1"]⟩,
   ⟨["mong", "phag"], encoded ["1802+1 2"]⟩,
   ⟨["beng", "deva", "gran", "knda"], encoded ["1cd0 2"]⟩,
   ⟨["deva"], encoded ["1cd1 3 7 3+1 3+6 3+1 2+3"]⟩,
   ⟨["deva", "gran"], encoded ["1cd3 20 5+1"]⟩,
   ⟨["beng", "deva"], encoded ["1cd5+1 2 9 9 3 8+1 8bfb"]⟩,
   ⟨["deva", "shrd"], encoded ["1cd7 2 3+1 3"]⟩,
   ⟨["deva", "knda", "mlym", "orya", "taml", "telu"], encoded ["1cda"]⟩,
   ⟨["deva", "nand"], encoded ["1ce9"]⟩,
   ⟨["beng", "deva", "gran", "knda", "nand", "orya", "telu", "tirh"], encoded ["1cf2"]⟩,
   ⟨["deva", "gran", "knda"], encoded ["1cf4"]⟩,
   ⟨["beng"], encoded ["1cf7"]⟩,
   ⟨["nand"], encoded ["1cfa"]⟩,
   ⟨["cyrl", "syrc"], encoded ["1df8"]⟩,
   ⟨["syrc"], encoded ["1dfa"]⟩,
   ⟨["latn", "mong"], encoded ["202f"]⟩,
   ⟨["deva", "gran", "latn"], encoded ["20f0"]⟩,
   ⟨["bopo", "hang", "hani", "hira", "kana", "yiii"], encoded ["3001+1 6+9 3+7 e0 ce66+4"]⟩,
   ⟨["bopo", "hang", "hani", "hira", "kana"], encoded ["3003 10 9+3 11 7 ce0e+1"]⟩,
   ⟨["hani"], encoded
     ["3006 38+1 151+f 21+23 3d+27 39+30 10+b 34 59+18 b+4 61+1e 19f62+11 1edf+1"]⟩,
   ⟨["bopo", "hani"], encoded ["302a+3"]⟩,
   ⟨["hira", "kana"], encoded ["3031+4 64+3 4 5c ce74 2e+1"]⟩,
   ⟨["hani", "hira", "kana"], encoded ["303c+1"]⟩,
   ⟨["hani", "latn"], encoded ["a700+7"]⟩,
   ⟨["deva", "dogr", "gujr", "guru", "khoj", "knda", "kthi", "mahj", "mlym", "modi", "nand", "sind",
     "takr", "tirh"], encoded
     ["a830+2"]⟩,
   ⟨["deva", "dogr", "gujr", "guru", "khoj", "knda", "kthi", "mahj", "modi", "nand", "sind", "takr",
     "tirh"], encoded
     ["a833+2"]⟩,
   ⟨["deva", "dogr", "gujr", "guru", "khoj", "kthi", "mahj", "modi", "sind", "takr",
     "tirh"], encoded
     ["a836+3"]⟩,
   ⟨["deva", "taml"], encoded ["a8f3"]⟩,
   ⟨["kali", "latn", "mymr"], encoded ["a92e"]⟩,
   ⟨["bugi", "java"], encoded ["a9cf"]⟩,
   ⟨["arab", "nkoo"], encoded ["fd3e+1"]⟩,
   ⟨["arab", "thaa"], encoded ["fdf2 b"]⟩,
   ⟨["cpmn", "cprt", "linb"], encoded ["10100+1"]⟩,
   ⟨["cprt", "linb"], encoded ["10102 35+8"]⟩,
   ⟨["cprt", "lina", "linb"], encoded ["10107+2c"]⟩,
   ⟨["arab", "copt"], encoded ["102e0+1b"]⟩,
   ⟨["mani", "ougr"], encoded ["10af2"]⟩,
   ⟨["dupl"], encoded ["1bca0+3"]⟩]

/-- The versions of Unicode, each with the characters that it added, the oldest first. -/
def ages : List NamedClass :=
  [⟨["1.1", "v11"], encoded
     ["0+1f5 5+1d 39+58 8+2e 2+9 17+45 1b+1 13+1 5 4 6+6 2 2+13 2+2b 2+6 4 2 2 2 2+11 e+b 2+41 2+b",
      "2+28 a+34 3+1 3+1 4+1b 3+7 3+1 38+25 3+6 2+26 2 27+9 2+8 d+1a 6+4 18 f 4 2+19 6+12 e+d",
      "3+47 3+4 2+e 2+1d 3+9 208+2 2+34 3+11 3+4 4+18 11+2 2+7 3+1 3+15 2+6 2 4+3 3 2+6 3+1 3+2",
      "a 5+1 2+4 3+14 8 3+5 5+1 3+15 2+6 2+1 2+1 2+1 3 2+4 5+1 3+2 c+3 2 8+e d+2 2+6 2 2+2 2+15",
      "2+6 2+1 2+4 3+9 2+2 2+2 3 10 6+9 12+2 2+7 3+1 3+15 2+6 2+1 3+3 3+7 4+1 3+2 9+1 5+1 2+2",
      "5+a 12+1 2+5 4+2 2+3 4+1 2 2+1 4+1 4+2 4+7 2+2 5+4 4+2 2+3 a 10+b f+2 2+7 2+2 2+16 2+9",
      "2+4 5+6 2+2 2+3 8+1 a+1 5+9 13+1 2+7 2+2 2+16 2+9 2+4 5+6 2+2 2+3 8+1 8 2+1 5+9 13+1 2+7",
      "2+2 2+16 2+f 5+5 3+2 2+3 a 9+1 5+9 92+39 5+1c 26+1 2 3+1 2 3 7+3 2+6 2+2 2 2 3+1 2+c 2+2",
      "3+4 2 2+5 3+9 3+1 1c3+25 b+26 5 5+59 6+43 6+51 c07+9a 6+59 7+15 3+5 3+25 3+5 3+7 2 2 2",
      "2+1e 3+34 2+e 2+d 3+5 2+12 3+2 2+8 2+2e 2+16 24+6 4+1a 12+a 26+11 1f+38 1b+2f e+5a 16+f1",
      "f 2+78 86+24 1c+a 16+8a 16+95 b+4f 11+13 7+55 92+3 2+3 3+1b 2+22 2 2+3 4 2+6 3+6 f+1e",
      "4+17 2+d 842+37 8 2+53 5+5 3+5d 7+27 5+5d 2+f 61+1c 4+23 1d+1b 4+31 10+b 5+2e 2+76 5+62",
      "3+1e 1a02+51a5 405b+1a2d d3+6 d+4 7+18 2+4 2 2+1 2+1 2+6b 22+16c 11+3f 3+35 29+b 25+3",
      "d+14 5+9 2+12 2+3 5+2 2 2+86 3 2+5d 3+5d 4+5 3+5 3+5 3+2 4+6 2+6 f+2"]⟩,
   ⟨["2.0", "v20"], encoded
     ["591+10 2+c 15 93c+47 2+20 8+1a 5+5 2 2+14 4+6 2 ee2 210 8b55+2ba3 1285b+1 ffff+1 ffff+1",
      "ffff+1 ffff+1 ffff+1 ffff+1 ffff+1 ffff+1 ffff+1 ffff+1 ffff+1 ffff+1 ffff+20001"]⟩,
   ⟨["2.1", "v21"], encoded ["20ac df50"]⟩,
   ⟨["3.0", "v30"], encoded
     ["1f6+3 1f+7 3+11 76+4 32 b+4 58+8 14 75 4 2 2 2 1f d 43 d 2b+1 3+3 5d+1 9d c9+2 63+1 6 10",
      "2b+4 2+d 2+1d 4+1a 36+30 5d2+1 2+11 4+17 2+8 2 3+6 4 5+5 2 2+7 13+2 176 2c 18+2 8 2+2 2+e",
      "3 31+21 2+4 2+1 2+6 4+3 7+19 1a7+6 2+3e 2 2+3 3+6 2 2+3 3+26 2 2+3 3+1e 2 2+3 3+6 2 2+3",
      "3+6 2+6 2+16 2+1e 2 2+3 3+6 2+26 2+12 7+1b 24+54 d+275 a+1c 4+50 90+5c 4+9 17+e 2+9 7+57",
      "9+29 786 19+5 60+2 33+1 56+1 49 68+8 10e 7a 2+1d 8b+1 1ca+7 22 57+1 18f+ff 581+19 2+58",
      "d+d5 1b+b 3d+2 4 162+17 249+19b5 524b+48c 4+11 3+f 2+b 2+2 2 5657 4dc+2"]⟩,
   ⟨["3.1", "v31"], encoded
     ["3f4+1 f9db+1f 511+1e 2+3 d+1a b6+25 3+25 cbb3+f5 b+26 4+b3 223+54 2+46 2+1 3 3+1 3+3 2+b 2",
      "2+3 2+1 2+40 2+3 3+7 2+6 2+1b 2+3 2+4 2 4+6 2+151 5+121 5+31 2801+a6d6 512a+21d b05e4",
      "1f+5f"]⟩,
   ⟨["3.2", "v32"], encoded
     ["220 12f 14+c 69+1 1d 94+1 3a+1 3+1 3+1 32+f 15f+1 142 946+1 608+c 2+6 c+16 a+13 d+c 2+2 2+1",
      "8d4 7+4 5 8+4 e 3f+1 33+6 53+e a9+b f3+d 7d 1f+33 11d+13 98+9 59+7 17+1 5b+b 3+9 df+d",
      "5b+1b 5+f 101+1ff 53c+2 58+1 9+1 5f f1+f 52+e 52+e 71e3+1 11 d 4 556b+3a 392 4+f 36+1 2d",
      "ec+1"]⟩,
   ⟨["4.0", "v40"], encoded
     ["221 13+2 78+1 40+10 51+7 6+2 98+4 205+3 a+8 41+2 96+1 10 2e+2 1e+2 1b5 b9 44 2 89 55+2 e 44",
      "3c 82+7 c2+1 b20 13+9 107+1c 4+b 5+b 5 4+29 3+4 6c+1f 301+6b 2e8+1 e7 294+1 12f 115+1",
      "75+7 f+1 45f+d 710+1 32 2c+1 4f+3 a8+3 64+1 20 19c1+3f affe 4a+1 1b8+b 2+19 2+12 2+1 2+e",
      "3+d 23+7a 6+2 5+2c 4+8 241+1d 2 87+1 27+4f 3+9 357+5 3 2+2b 2+1 4 3 cac1+56 16b c2c3f+ef"]⟩,
   ⟨["4.1", "v41"], encoded
     ["237+a 117+4 a0+3 f7+1 ab 23+2 44 13 3b+5 f2+1d 210 51 1e8 30 3ea+1 128+1 2 10b 40 40 28 20",
      "20 20 10 28 18+1 20+19 5e7+29 7+19 7+9 5+1 21+1b 3+1 34d+57 292+1 2+6 32+4 1e+3 36 51 10",
      "285+a 23d 66+1 13+a 6+f 10f+6 348+5 ed+2e 2+2e 22+6a f+2c b+35 a 11+16 a+6 2+6 2+6 2+6",
      "2+6 2+6 2+6 2+6 22+17 5+1 3a3+f af 6d28+15 745+16 ea+2b 5245+69 337+9 327+4a 216+23 5+d",
      "62b+3 2+1 6+7 2+2 2+1a 5+2 5+8 9+8 c7a8+45 45f+1"]⟩,
   ⟨["5.0", "v50"], encoded
     ["242+d 12c+2 152 2b+5 11+3 a7 206+3a 181+1 2+1 363+1 e+1 e0e+4b 5+2c 248+6 34+1 2ed+3 5e+1",
      "36 258+b 2cb 115+3 34a+6 6+3 13d+c 8+3 7aa0+3 6+1 11f+37 6089+19 6 16e1+36e 92+62 e+3",
      "aeed+11 459+1"]⟩,
   ⟨["5.1", "v51"], encoded
     ["370+3 3+1 58 b8 8d+f e3+4 c+4 21+4 12f+11 1f2+1 df 24 cf 1e+1 6d 6d 1b+1 9+1 15+7 be 7 1e+1",
      "d+5 4+6 1ec+1 62 4+2 4e 6 3 8+2 5+5 1b+3f 5+1 80b 2d6+2a 4+b 47+37 4+e 4+32 14c+1b b6+3",
      "5b+5 165 8c 5f 36+3 515 16+9 4+3 109 20+3 32c+4 5+28 4+4 119+2 2+2 5+5 163+1f 19+3 3+12",
      "2fd a3+13 6dd9+7 53d+12b 15+1f 3+11 9+1b 84+4 3+6a 6f+4 81+44 a+b 27+53 c a1+36 a+d 3+9",
      "3+3 53c5+2 36a+b 35+2d 83+1c 4+30 650+19 6 c7ea 1ed7+2b 5+63"]⟩,
   ⟨["5.2", "v52"], encoded
     ["524+1 2db+2d 3+e c2 4e 7 24+1 81 5da+3 c2+3 bd+4 45+4 53+5 201 277+8 231+45 b5+1 2f 46+3e",
      "2+1c 3+a 7+9 7+d 223+22 10b 2b9+2 98+2 37 25f 2b6+1 1e+2 5+9 2+12 2 5+17 58 3fe+4 117 e+1",
      "6c+6 140 413+b 6d75+7 505+2f 1a1+57 139+9 a7+1b 65+1c 4+4d 2+a 5+1 81+1b 5+42 19+4 e1+2d",
      "3+9 2bb7+16 5+30 2270+2 dd3+15 2+8 bb+1 145+1f 81+35 4+1c 3+1a 6+7 81+48 218+1e 202+41",
      "1f3f+42e bcd2+a 6+1e 3 c 2 3 4 4+4 9 8 1a 2+1 3 b+3 3 70 10+21 f+8 b4b8+1034"]⟩,
   ⟨["6.0", "v60"], encoded
     ["526+1 f9 3f 1e1+1b 3 dc+1 14 7+1 1c+4 1fb+5 1b2 11 14 23e+3 4a+1 383+1 862+33 9+3 1fd 299+7",
      "1d 330+a 2db 14 2+3 1e 5+1 1d 24 2 5+2 a+1 35+2 19 f f+1 5a1 f 439+2 74a6+1 12c+1 2+1 f+9",
      "51 307+5 3+5 3+5 a+6 2+6 5084+f 143f+4d 5+1d 5791+238 45c8+1 409f+e 3+d 3+e 2+e 51 2+a 2",
      "2+1 2+2 2+2 6+7 2+6 2+9 7+8 2 3+1 2+9 5+1 2+9 4c+19 2+1 30+8 16+1 af+20 10+5 2+45 4+13",
      "d+24 2+4 16+10 10+3e 2 2+b5 2+3 4+3d 13+17 94+4 2+f 2+2 2 2 2 2+2 2+5 3+3 2 3+3 2+b 5+a",
      "31+45 3b+73 bfcd+dd"]⟩,
   ⟨["6.1", "v61"], encoded
     ["58f 75 29c 2+a 38+1a 1f2 3ee+1 1e8 6 30+2 aac+2 d+5 101+7 2c+3 ad5 2 525+1 34 6 39+1 cb+9",
      "7191 6a8+7 24 f3+1 17 4e+1 2e7+16 4f38+1 f51+37 7+1 711+18 8+9 7+34 2+d 3d+48 8+9 4a7+37",
      "9+9 5837+44 c+2e 11+10 7e61+3 2+1a 2+1 2 3 2+9 2+3 2 2 7 5 2 2 2+2 2+1 2 3 2 2 2 2 2+1 2",
      "3+3 2+6 2+3 2+3 2 2+9 2+10 6+2 2+4 2+10 35+1 279+1 3d5+3 bd 11 4 2 2 2 4 7+1 5 2+1 5"]⟩,
   ⟨["6.2", "v62"], encoded ["20ba"]⟩,
   ⟨["6.3", "v63"], encoded ["61c 1a4a+3"]⟩,
   ⟨["7.0", "v70"], encoded
     ["37f 1a9+7 5e+1 77 29c c+5 4d 79 8 280 34 4d 80 e5+9 902+7 225+1 192+e 23a+1 ee+e 2c6+2",
      "337+6 306 44d+2 b+19 3+1f 3+21 4+b 2+7 26b+6 7856+5 f7+b c+2 3+1 46 1e9+1e 7e+3 b1+2f 5+1",
      "52c2+6 35e+1 14 140+1b 24 31+2a 186+27 9+33 c 91+136 a+15 b+7 f9+3e 9+8 1d1+1f 21+26 5+b",
      "8a+11 8+3 d+6 4d0 d1+26 57 d 7+13 c+11 2+2a 73+3a 6+9 8+2 2+7 3+1 3+15 2+6 2+1 2+4 3+8",
      "3+1 3+2 a 6+6 3+6 4+4 10c+47 9+9 a7+35 3+11 37+44 c+9 247+52 d 1c1+38 877+29 cb+b 6",
      "45cc+1e 2+9 5+1 61+1d 3+5 b+45 b+9 2+6 2+14 6+12 5071+6a 6+c 4+8 8+9 3+7 2b5d+c4 3+f 7e9",
      "21+15 16+1 215+b a 47 17+b 26 6+3 6+b 12+6 48 2 b7 5+1 40+1 5+6 1e+11 2+28 2+55 47+1 e+2f",
      "47+9 11+c 4+3 8d+54 2c+b 5+37 9+9 7+27 9+1d"]⟩,
   ⟨["8.0", "v80"], encoded
     ["8b3+1 2f 216 161 105 696 3+5 cc1 cc+1 a61+3 73de+8 6c9 f1 23+5 145+1 263+3 d+4f 526f+1",
      "ab1+12 2+1 6+4 bd+1 3+f 3+2d 281+32 e+32 8+5 4ca+3 f+4 a1+6 2 2+3 2+e 2+a 57 50 27a+13",
      "123+19 4+e 5+f c5a e7+c3 1ebd+246 8b98+a 618+28b 10+4 2+e 187e+2 4f+1 50+4 25+7 100 4c+4",
      "f4+1 8c 240+8 68+4 3c be60+1681"]⟩,
   ⟨["9.0", "v90"], encoded
     ["8b6+7 17+e 39e cf 5+2 2+6 18+2 f08+8 173 600+3 a45+1 796a 117 58c8+1 322+23 5+23 d43 1c2+59",
      "2 2 203+c 594+8 2+2c 2+d b+1c 4+1f 3+15 2+d 532a 20+17ec 14+2f2 550e+6 2+10 3+6 2+1 2+4",
      "8d6+4a 6+9 5+1 83c+11 8f 33f 2a 12d+1 22+2 223+5 2+7 9 3+b 2+b 5+e 27+c"]⟩,
   ⟨["10.0", "v100"], encoded
     ["860+a 192+1 fd+5 201 3b+1 fbb ff+3 2c6 340 7d3 273+4 2e5 6ea8+14 6343+2 16d1+47 9+33 3+16",
      "2+4 25e+6 2+1 2+2b 4 2+1 2+8 9+9 5288 4021+11c 52+18b 3f65+5 46e+1 23+1 208+b 14 9+7 2+1",
      "1a 13+c 27+5 39+16 d4ca+1d30"]⟩,
   ⟨["11.0", "v110"], encoded
     ["560 28 67 20e+2 d4 12b 78 18e 80 bf4 418+2a 3+2 efb+2 17+18 5+e 24c+4 2e1 6ebc+4 7c0 9+1",
      "145+1 6135+1 13 2b8+27 9+9 1c7+27 9+29 174 77+2 1f5 123 2bc e6+3b 262 2c3+5 2+1 2+24 2+1",
      "2+5 8+9 137+18 4f48+5a 1953+4 4aef+13 7f+6 18f9+43 47b 5ca dc+3 175+2 1d+4 3+3 4 2+3 19+a",
      "e+9 8+1 25+18 61+d"]⟩,
   ⟨["12.0", "v120"], encoded
     ["c77 20f 3 3 2+5 5 8 8+1 3 e e40 ecf 36 250 796b+5 3+4 3a0+1 6479+16 469 259 2e8+7 3+2d 3+a",
      "a0+1 53b+31 e 1431+8 3b0d+5 5 30+8 5b+1 180f+5 2959+2 12+3 2f99+2c 4+d 3+9 5+1 171+39 6",
      "64c 3b6+3c 42f 569 25 e6+b 122+2 30 32 a 2a+5 4+1 b+5 4+7 3+2 31+53 1d+3 5+2 6+2 e+5"]⟩,
   ⟨["12.1", "v121"], encoded ["32ff"]⟩,
   ⟨["13.0", "v130"], encoded
     ["8be+9 28e 1af 7d d3e+1 10d7 2b9+2 369+4 1bf7+9 5231+c 7cb+3 2b+1 36 33c+3 5631 ce4+29 2+2",
      "3+1 ff+1b 17c 87+1 28b 6+1 49f+6 3 3+7 2+1 2+1d 2+1 3+b a+9 657 5034 c+1 1b02+1e2 2b+8",
      "6405+2 5e+2 3e 529+1 24+1 1b4+1 5b 66 5+1 2b+1 7+2 1e a9 f+3 10+12 8+6 a+2 e+6 2a+92 2+36",
      "26+9 aade+6 5923+134a"]⟩,
   ⟨["14.0", "v140"], encoded
     ["61d 253+1e 2+1 7+7 16 13+a 36a 21 80 a30 8 a f0 2b2+d 7e 31+1 27c 2c6 b6f 30 1f4+a 71a0+2",
      "7c1+1 f+1 2 2+4 19+2 53ce 17e+f 80 2f+1 771+a 2+e 2+6 2+1 2+a 2+e 2+6 2+1 1c4+5 2+29 2+8",
      "7b6+19 e7+5 4d 5f7 87+6 36a+f 14d1+62 3a7e+4e 2+9 4527+3 2+6 2+1 121+3 1dde+2d 3+16 a+73",
      "226+1 d16+1e 372+1e 532+6 2+3 2+1 2+e edf+2 111 189 53 af+1 2d+3 b+3 9+2 12+2 7+7 9+6",
      "abe8+1 1056+3"]⟩,
   ⟨["15.0", "v150"], encoded
     ["cf3 1db 1002f+2 340+2 8bf+9 3f7+10 2+28 4+1b 14d6 a+1c 7cdd 23 216b+13 c52+5 106+3d 22",
      "441+29 11e3 98+2 5+4 5a 29c+2 10+1 25+2 c+2 2 f+1 b+1 d f+1 bc41 5c17+105f"]⟩]

end CharClass

end AccessPolicy.Pattern
