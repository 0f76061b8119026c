import AccessPolicy.Expression.Context
import AccessPolicy.Expression.Registry
import AccessPolicy.Trace

/-!
# Pipes

A pipe turns its arguments into a transformation of values, or refuses them. A transformation
never fails: values that it cannot treat become null or pass through. It reads the scope of the
evaluation; the keys that hold for this evaluation only are hidden from it, as from the handlers
of keys.
-/

namespace AccessPolicy

/-- A transformation of values. It may read the scope, but not change it. -/
structure Transform where
  /-- The value that becomes of a value. -/
  value : Scope → Value → Value
  /-- The events that transforming a value in a scope causes. -/
  events : Scope → Value → List Event := fun _ _ => []

/-- What a pipe makes of its arguments. -/
abbrev Pipe := List String → Except ExprError Transform

namespace Transform

/-- A transformation that reads nothing but the value. -/
def pure (f : Value → Value) : Transform where
  value _ := f

/-- Transforms a value step by step; the events follow each other. -/
def runAll (scope : Scope) : List Transform → Value → Value × List Event
  | [], v => (v, [])
  | t :: ts, v =>
    let (result, events) := runAll scope ts (t.value scope v)
    (result, t.events scope v ++ events)

end Transform

namespace Pipe

/-- A pipe that has no use for arguments. -/
def plain (transform : Transform) : Pipe :=
  fun _ => .ok transform

/-- A pipe that takes its first argument, or none, and accepts every text. -/
def optional (transform : Option String → Transform) : Pipe :=
  fun args => .ok (transform args.head?)

end Pipe

end AccessPolicy
