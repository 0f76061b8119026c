import AccessPolicy.Json.Value

/-!
# Records

Reading values as records with named fields, as documents hold them. A record may also be a list
of its values in order. Fields that a record does not know are ignored.
-/

namespace AccessPolicy.Value

/-- The fields of a record with the given names. -/
def record? (names : List String) : Value → Option Fields
  | .object fields => some fields
  | .array items => if items.length ≤ names.length then some (names.zip items) else none
  | _ => none

/-- The fields of an object. -/
def fields? : Value → Option Fields
  | .object fields => some fields
  | _ => none

/-- The items of a list. -/
def items? : Value → Option (List Value)
  | .array items => some items
  | _ => none

/-- A text. -/
def text? : Value → Option String
  | .string text => some text
  | _ => none

/-- A truth value. -/
def truth? : Value → Option Bool
  | .bool value => some value
  | _ => none

/-- An integer of a document, which has no point and no exponent. -/
def integer? : Value → Option Int
  | .number (.int n) => some n
  | _ => none

/-- A natural number of a document. -/
def natural? (v : Value) : Option Nat :=
  (v.integer?.filter fun n => 0 ≤ n).map Int.toNat

/-- A list of texts. -/
def texts? (v : Value) : Option (List String) := do
  (← v.items?).mapM text?

/-- What `read?` makes of a value, where null is the absent value. -/
def nullable? {α : Type} (read? : Value → Option α) (v : Value) : Option (Option α) :=
  if v.isNull then some none else (read? v).map some

end AccessPolicy.Value

namespace AccessPolicy.Entries

/-- What `read?` makes of a field, which must be present. -/
def required? {α : Type} (name : String) (read? : Value → Option α) (fields : Fields) :
    Option α :=
  (Entries.get? name fields).bind read?

/-- What `read?` makes of a field, and the default without the field. -/
def optional? {α : Type} (name : String) (read? : Value → Option α) (default : α)
    (fields : Fields) : Option α :=
  match Entries.get? name fields with
  | some v => read? v
  | none => some default

end AccessPolicy.Entries
