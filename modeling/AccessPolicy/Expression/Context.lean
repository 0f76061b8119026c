import AccessPolicy.Calendar.Instant
import AccessPolicy.Expression.Key
import AccessPolicy.Json.Path
import AccessPolicy.Text.Pieces

/-!
# Contexts

What an evaluation can read: the variables, the clock and a random sample, and the keys that hold
for this evaluation only. A key handler answers for a key; resolvers find the handler of a key.
Each resolver looks for the key itself, then for its whole namespace, and then asks its delegates
in order.

Two things are left out. A clock that moves on, and chance that is asked again, within one
evaluation: all that an evaluation reads of them is one moment. And handlers that ask for other
keys by the keys of the context: a context holds handlers, so that handlers are no functions of
contexts here.
-/

namespace AccessPolicy

/-- What chance and the clock give to an evaluation. One moment stands for the whole evaluation:
keys that are read twice within it have the same value. -/
structure Moment where
  /-- The present. -/
  now : Instant
  /-- A random number that is at least zero and below one. -/
  sample : Binary64

/-- What the handlers of keys and the transformations of pipes can read: all of a context but its
keys. -/
structure Scope extends Moment where
  /-- The variables. -/
  bindings : Fields := []

/-- Answers for keys. -/
structure KeyHandler where
  /-- The value of a key, which is null if there is none. -/
  value : Key → Scope → Value
  /-- The names of the fields that a key refers to. -/
  fields : Key → List String := fun _ => []

/-- Handlers of keys, and the resolvers to ask next. -/
inductive KeyResolver where
  | node (handlers : Entries Key KeyHandler) (delegates : List KeyResolver)

/-- What an evaluation can read. -/
structure Context extends Scope where
  /-- The keys that come before those of the library. -/
  keys : Option KeyResolver := none

namespace Scope

/-- The value of a dotted path whose first segment names a variable. What follows the first point
is a path within the value of the variable. -/
def lookup? (scope : Scope) (path : String) : Option Value :=
  match Text.cutAt? ['.'] path.toList with
  | some (name, rest) =>
    (Entries.get? (String.ofList name) scope.bindings).bind (Value.lookup? (String.ofList rest))
  | none => Entries.get? path scope.bindings

/-- The scope with a variable written. -/
def assign (scope : Scope) (name : String) (value : Value) : Scope :=
  { scope with bindings := Entries.insert name value scope.bindings }

end Scope

namespace KeyResolver

instance : Inhabited KeyResolver := ⟨.node [] []⟩

/-- The handlers of the resolver itself. -/
def handlers : KeyResolver → Entries Key KeyHandler
  | .node handlers _ => handlers

/-- A resolver without handlers that asks others in order. -/
def chain (delegates : List KeyResolver) : KeyResolver :=
  .node [] delegates

/-- A resolver without delegates. -/
def ofHandlers (handlers : List (Key × KeyHandler)) : KeyResolver :=
  .node (Entries.ofList handlers) []

/-- The number of keys that the resolver itself answers for. -/
def size (resolver : KeyResolver) : Nat :=
  resolver.handlers.length

mutual

/-- The handler of a key. -/
def find? (key : Key) : KeyResolver → Option KeyHandler
  | .node handlers delegates =>
    ((Entries.get? key handlers).or (Entries.get? key.wildcard handlers)).or
      (findAmong? key delegates)

/-- The handler that the first of some resolvers finds. -/
def findAmong? (key : Key) : List KeyResolver → Option KeyHandler
  | [] => none
  | resolver :: rest => (resolver.find? key).or (findAmong? key rest)

end

end KeyResolver

/-- The handler that the context itself has for a key. -/
def Context.localHandler? (context : Context) (key : Key) : Option KeyHandler :=
  context.keys.bind (KeyResolver.find? key)

namespace KeyHandler

/-- A handler with a fixed value. -/
def const (value : Value) : KeyHandler where
  value _ _ := value

/-- A handler that reads the name of a key as a path, from a root variable if one is given. -/
def path (root : Option String) : KeyHandler where
  value key scope :=
    let path := match root with
      | some root => root ++ "." ++ key.name
      | none => key.name
    (scope.lookup? path).getD .null
  fields key := [key.name]

/-- A handler that reads the name of a key as a field of a variable. -/
def variableField (name : String) : KeyHandler where
  value key scope :=
    match Entries.get? name scope.bindings with
    | some (.object fields) => (Entries.get? key.name fields).getD .null
    | _ => .null

end KeyHandler

end AccessPolicy
