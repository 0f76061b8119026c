import AccessPolicy.Entries
import AccessPolicy.Text.Case

/-!
# Registries

Pipes, condition operators and exec operators are found by name. A registry looks among its own
entries first and then asks its delegates in order.
-/

namespace AccessPolicy

/-- Named things, and the registries to ask next. -/
inductive Registry (α : Type) where
  /-- Entries with delegates. -/
  | node (entries : Entries String α) (delegates : List (Registry α))
  /-- A registry whose names may also begin in lower case. -/
  | lenient (inner : Registry α)

namespace Registry

variable {α : Type}

instance : Inhabited (Registry α) := ⟨.node [] []⟩

/-- A registry without entries that asks others in order. -/
def chain (delegates : List (Registry α)) : Registry α :=
  .node [] delegates

/-- A registry without delegates. -/
def ofEntries (entries : List (String × α)) : Registry α :=
  .node (Entries.ofList entries) []

mutual

/-- What is registered under a name. -/
def find? (name : String) : Registry α → Option α
  | .node entries delegates =>
    (Entries.get? name entries).or (findAmong? name delegates)
  | .lenient inner => (inner.find? name).or (inner.find? (Text.capitalized name))

/-- What the first of some registries has under a name. -/
def findAmong? (name : String) : List (Registry α) → Option α
  | [] => none
  | registry :: rest => (registry.find? name).or (findAmong? name rest)

end

end Registry

end AccessPolicy
