import AccessPolicy.Expression.Error
import AccessPolicy.Text.Blank

/-!
# Keys

A key names a value as `namespace:name`. A name alone belongs to the namespace `field`, and the
name `*` stands for every name of its namespace. Reading drops white space around both parts, so
the text of a key reads back to the same key.
-/

namespace AccessPolicy

/-- The name of a value within a namespace. -/
structure Key where
  /-- The namespace. -/
  space : String
  /-- The name. -/
  name : String
deriving DecidableEq

namespace Key

/-- The namespace of a key that is written without one. -/
def defaultSpace : String := "field"

/-- The key that stands for its whole namespace. -/
def wildcard (key : Key) : Key :=
  { key with name := "*" }

/-- The text of a key. -/
def toText (key : Key) : String :=
  key.space ++ ":" ++ key.name

/-- The key of the given parts, if both of them have text. -/
def ofParts? (space name : List Char) : Option Key :=
  if space.isEmpty || name.isEmpty then none
  else some ⟨String.ofList space, String.ofList name⟩

/-- The key that a text denotes. -/
def read? (text : String) : Option Key :=
  match ((Text.trim text.toList).splitOn ':').map Text.trim with
  | [name] => ofParts? defaultSpace.toList name
  | [space, name] => ofParts? space name
  | _ => none

/-- The key that a text denotes; any other text is an error. -/
def read (text : String) : Except ExprError Key :=
  match read? text with
  | some key => .ok key
  | none => .error (.invalidKey text)

theorem read_eq_ok_iff {text : String} {key : Key} :
    read text = .ok key ↔ read? text = some key := by
  rw [read]
  cases read? text <;> simp

end Key

end AccessPolicy
