import AccessPolicy.Json.Writer
import AccessPolicy.Text.Blank
import AccessPolicy.Text.Case

/-!
# Coercions of values

What a value counts as where a text, a number, a truth value or a list is wanted. Null has no
text, no number and no truth value, and is the empty list.
-/

namespace AccessPolicy.Value

/-- The text of a value: a string as it is, null nothing, any other value its rendering. -/
def toText? : Value → Option String
  | .null => none
  | .string text => some text
  | v => some v.toJson

/-- The text of a value within a longer text, where null adds nothing. -/
def inlineText (v : Value) : String :=
  v.toText?.getD ""

/-- The number of a value: numbers, and strings that read as one. -/
def toNumber? : Value → Option Binary64
  | .number n => some n.toBinary64
  | .string text => Binary64.read? (Text.trimmed text)
  | _ => none

/-- The truth value of a value: the words `true` and `false` in any case count, and every number
but zero is true. -/
def toBool? : Value → Option Bool
  | .bool value => some value
  | .string text =>
    if Text.equalIgnoringAsciiCase text "true" then some true
    else if Text.equalIgnoringAsciiCase text "false" then some false
    else none
  | .number n => some (!n.toBinary64.isZero)
  | _ => none

/-- Whether a guard of this value lets evaluation proceed. What has no truth value does. -/
def truthy (v : Value) : Bool :=
  v.toBool?.getD true

/-- The value as a list: null is the empty list and any other value but an array one item. -/
def asList : Value → List Value
  | .array items => items
  | .null => []
  | v => [v]

/-- A computed number as a value: an integer if it is integral and below `2 ^ 63` in size, and
null if it is not finite. -/
def ofBinary64 (x : Binary64) : Value :=
  match x.truncate? with
  | some n => if x.isIntegral && n.natAbs < Nat.pow 2 63 then ofInt n else .number (.float x)
  | none => .null

/-- The value with `f` applied to it, or to each item if it is an array. -/
def mapItems (f : Value → Value) : Value → Value
  | .array items => .array (items.map f)
  | v => f v

/-- Whether a value has no text or a text of white space only. -/
def isBlank (v : Value) : Bool :=
  match v.toText? with
  | some text => Text.allBlank text
  | none => true

end AccessPolicy.Value
