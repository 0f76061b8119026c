import AccessPolicy.Expression.Exec
import AccessPolicy.Standard.ListPipes

/-!
# Pipes on objects

Reading paths within a value, listing the fields of an object, and the exec operator that makes
an object of a key and a value.
-/

namespace AccessPolicy.Standard

/-- The value of a path within a value, or the values other than null of the path within the
items of a list. -/
def select (path : String) : Value → Value
  | .array items =>
    .array ((items.filterMap (Value.lookup? path)).filter fun v => !v.isNull)
  | v => (v.lookup? path).getD .null

/-- Reads a path. -/
def pathPipe : Pipe :=
  .optional fun arg => .pure fun v =>
    match readPath? arg with
    | some path => select path v
    | none => .null

/-- Reads a path that is the text of a variable. -/
def pathByPipe : Pipe :=
  .optional fun arg =>
    { value := fun scope v =>
        let path := ((readPath? arg).bind scope.lookup?).bind Value.toText?
        match path.filter fun path => path ≠ "" with
        | some path => select path v
        | none => .null }

/-- The fields of an object, or of the first item of a list, as a list of objects. -/
def entries (v : Value) : Value :=
  let first := match v with
    | .array items => items.head?.getD .null
    | v => v
  match first with
  | .object fields =>
    .array (fields.map fun (key, v) => .object [("key", .string key), ("value", v)])
  | _ => .array []

/-- The pipes on objects. -/
def objectPipes : Registry Pipe :=
  .ofEntries [
    ("path", pathPipe),
    ("pathBy", pathByPipe),
    ("entries", .plain (.pure entries))]

/-- Makes an object with one field of the parameters `key` and `value`. -/
def pairExec : ExecHandler := fun call _ =>
  match (Entries.get? "key" call.params).bind Value.toText? with
  | some key => .ok (.object [(key, (Entries.get? "value" call.params).getD .null)])
  | none => .fail (.execFailed call.operator "missing key")

end AccessPolicy.Standard
