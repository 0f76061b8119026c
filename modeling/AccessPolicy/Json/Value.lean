import AccessPolicy.Entries
import AccessPolicy.Number.Binary64

/-!
# JSON values

Values as documents and expressions know them. Objects keep the order of their fields, and
integers stay apart from doubles, so that `10` and `10.0` are different values. Null stands for
an absent value.
-/

namespace AccessPolicy

/-- A number of a document. -/
inductive Number where
  /-- An integer. -/
  | int (value : Int)
  /-- A double. -/
  | float (value : Binary64)
deriving DecidableEq

/-- A JSON value. -/
inductive Value where
  /-- The absent value. -/
  | null
  /-- A truth value. -/
  | bool (value : Bool)
  /-- A number. -/
  | number (value : Number)
  /-- A text. -/
  | string (text : String)
  /-- A list of values. -/
  | array (items : List Value)
  /-- Named values in order. -/
  | object (fields : List (String × Value))
deriving Inhabited

/-- The fields of an object, in order. -/
abbrev Fields := Entries String Value

namespace Value

/-- The integer `n` as a value. -/
def ofInt (n : Int) : Value :=
  .number (.int n)

/-- The natural number `n` as a value. -/
def ofNat (n : Nat) : Value :=
  .number (.int n)

/-- Whether the value is null. -/
def isNull : Value → Bool
  | .null => true
  | _ => false

/-- The name of the kind of a value, as error messages write it. -/
def typeName : Value → String
  | .null => "null"
  | .bool _ => "bool"
  | .number _ => "number"
  | .string _ => "string"
  | .array _ => "array"
  | .object _ => "object"

mutual

/-- No object within the value names a field twice. -/
def WellFormed : Value → Prop
  | .array items => AllWellFormed items
  | .object fields => (Entries.keys fields).Nodup ∧ FieldsWellFormed fields
  | _ => True

/-- Every value of the list is well formed. -/
def AllWellFormed : List Value → Prop
  | [] => True
  | v :: vs => v.WellFormed ∧ AllWellFormed vs

/-- Every value of the fields is well formed. -/
def FieldsWellFormed : List (String × Value) → Prop
  | [] => True
  | (_, v) :: rest => v.WellFormed ∧ FieldsWellFormed rest

end

end Value

/-- The double nearest to a number. -/
def Number.toBinary64 : Number → Binary64
  | .int value => Binary64.ofInt value
  | .float value => value

end AccessPolicy
