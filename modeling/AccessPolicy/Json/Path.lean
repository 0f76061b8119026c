import AccessPolicy.Json.Value
import AccessPolicy.Number.Whole

/-!
# Paths into values

A dotted path such as `a.b.0` names a value within a value: each segment names a field of an
object or counts an item of an array.
-/

namespace AccessPolicy

namespace Path

/-- The segments of a dotted path. -/
def segments (path : String) : List String :=
  (path.toList.splitOn '.').map String.ofList

end Path

namespace Value

/-- The field or item that one segment names. -/
def child? (segment : String) : Value → Option Value
  | .object fields => Entries.get? segment fields
  | .array items => (readWord? segment).bind fun index => items[index]?
  | _ => none

/-- The value that a list of segments leads to. -/
def descend? : List String → Value → Option Value
  | [], v => some v
  | segment :: rest, v => (v.child? segment).bind (descend? rest)

/-- The value that a dotted path leads to. -/
def lookup? (path : String) (v : Value) : Option Value :=
  descend? (Path.segments path) v

/-- A path of two parts leads where its second part leads from where its first part leads. -/
theorem descend?_append (first second : List String) (v : Value) :
    descend? (first ++ second) v = (descend? first v).bind (descend? second) := by
  induction first generalizing v with
  | nil => rfl
  | cons segment rest ih =>
    simp only [List.cons_append, descend?, Option.bind_assoc]
    congr 1
    funext w
    exact ih w

end Value

end AccessPolicy
