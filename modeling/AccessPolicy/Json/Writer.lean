import AccessPolicy.Json.Value
import AccessPolicy.Number.Decimal

/-!
# Writing JSON

The compact rendering, without spaces and with object fields in order, and the indented one with
two spaces a level. Texts escape the quote, the backslash and control characters only.
-/

namespace AccessPolicy

/-- The digit of a value below sixteen, in lower case. -/
def hexDigit (n : Nat) : Char :=
  Nat.digitChar n

/-- A character within a quoted text. -/
def escapeChar (c : Char) : List Char :=
  if c = '"' then ['\\', '"']
  else if c = '\\' then ['\\', '\\']
  else if c = '\n' then ['\\', 'n']
  else if c = '\r' then ['\\', 'r']
  else if c = '\t' then ['\\', 't']
  else if c.toNat = 8 then ['\\', 'b']
  else if c.toNat = 12 then ['\\', 'f']
  else if c.toNat < 32 then
    ['\\', 'u', '0', '0', hexDigit (c.toNat / 16), hexDigit (c.toNat % 16)]
  else [c]

/-- A text in quotes. -/
def quoted (s : String) : String :=
  String.ofList ('"' :: (s.toList.flatMap escapeChar ++ ['"']))

/-- The text of a number. -/
def Number.toText : Number → String
  | .int value => integerText value
  | .float value => value.toText

namespace Value

mutual

/-- The compact rendering of a value. -/
def toJson : Value → String
  | .null => "null"
  | .bool value => if value then "true" else "false"
  | .number value => value.toText
  | .string text => quoted text
  | .array items => "[" ++ itemsToJson items ++ "]"
  | .object fields => "\x7b" ++ fieldsToJson fields ++ "\x7d"

/-- Values with commas between them. -/
def itemsToJson : List Value → String
  | [] => ""
  | [v] => v.toJson
  | v :: vs => v.toJson ++ "," ++ itemsToJson vs

/-- Fields with commas between them. -/
def fieldsToJson : List (String × Value) → String
  | [] => ""
  | [(name, v)] => quoted name ++ ":" ++ v.toJson
  | (name, v) :: rest => quoted name ++ ":" ++ v.toJson ++ "," ++ fieldsToJson rest

end

/-- A new line at a level of indentation. -/
def newLine (level : Nat) : String :=
  String.ofList ('\n' :: List.replicate (2 * level) ' ')

mutual

/-- The indented rendering of a value that stands at a level. -/
def toPrettyJson (level : Nat) : Value → String
  | .array [] => "[]"
  | .array items => "[" ++ prettyItems (level + 1) items ++ newLine level ++ "]"
  | .object [] => "\x7b\x7d"
  | .object fields => "\x7b" ++ prettyFields (level + 1) fields ++ newLine level ++ "\x7d"
  | .null => toJson .null
  | .bool value => toJson (.bool value)
  | .number value => toJson (.number value)
  | .string text => toJson (.string text)

/-- Values on lines of their own. -/
def prettyItems (level : Nat) : List Value → String
  | [] => ""
  | [v] => newLine level ++ v.toPrettyJson level
  | v :: vs => newLine level ++ v.toPrettyJson level ++ "," ++ prettyItems level vs

/-- Fields on lines of their own. -/
def prettyFields (level : Nat) : List (String × Value) → String
  | [] => ""
  | [(name, v)] => newLine level ++ quoted name ++ ": " ++ v.toPrettyJson level
  | (name, v) :: rest =>
    newLine level ++ quoted name ++ ": " ++ v.toPrettyJson level ++ "," ++ prettyFields level rest

end

end Value

end AccessPolicy
