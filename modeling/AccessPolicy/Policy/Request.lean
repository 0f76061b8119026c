import AccessPolicy.Policy.Claims

/-!
# Requests

What a single decision is about: who asks, under which circumstances, and for which resource.
Expressions see the claims, the environment and the resource as variables, and further variables
besides them.
-/

namespace AccessPolicy

/-- What a decision is about. -/
structure Request extends Moment where
  /-- The claims of the caller. -/
  claims : Claims := {}
  /-- The circumstances. -/
  environment : Environment := {}
  /-- The resource, if there is one. -/
  resource : Option String := none
  /-- Keys that hold for this request only. -/
  keys : Option KeyResolver := none
  /-- Further variables. -/
  extra : Fields := []

namespace Request

/-- The variable with the claims. -/
def claimsName : String := "claims"

/-- The variable with the environment. -/
def environmentName : String := "environment"

/-- The variable with the resource. -/
def resourceName : String := "resource"

/-- The resource, unless it has no text but white space. -/
def resource? (request : Request) : Option String :=
  request.resource.filter fun resource => !Text.allBlank resource

/-- What a field holds, and the given default without the field; a value that does not fit is
malformed. -/
def readField {α : Type} (name : String) (read? : Value → Option α) (default : α)
    (fields : Fields) : Except PolicyError α :=
  match Entries.optional? name read? default fields with
  | some a => .ok a
  | none => .error .malformed

/-- The resource that a value names. -/
def readResource : Value → Except PolicyError (Option String)
  | .null => .ok none
  | .string resource => .ok (some resource)
  | _ => .error (.document .resourceNotText)

/-- The request that a value holds at some moment. Fields without a meaning of their own become
variables. -/
def ofValue (moment : Moment) (v : Value) : Except PolicyError Request := do
  let .object fields := v | throw (.document .contextNotObject)
  let claims ← readField claimsName Claims.ofValue? {} fields
  let environment ← readField environmentName Environment.ofValue? {} fields
  let resource ← readResource ((Entries.get? resourceName fields).getD .null)
  let extra := fields.filter fun entry =>
    entry.1 ∉ [claimsName, environmentName, resourceName]
  return { toMoment := moment, claims, environment, resource, extra }

/-- What expressions can read of a request. -/
def toContext (request : Request) : Context where
  toMoment := request.toMoment
  bindings := Entries.insertAll request.extra
    [(claimsName, request.claims.toValue), (environmentName, request.environment.toValue),
      (resourceName, (request.resource.map Value.string).getD .null)]
  keys := request.keys

/-- The roles of a caller: those of the claims and the implicit one, each once. -/
def roles (request : Request) (implicitRole : String) : List String :=
  (request.claims.roles ++ [implicitRole]).eraseDups

/-- The keys of the claims and of the environment. -/
def resolver : KeyResolver :=
  .ofHandlers [
    (⟨"claims", "*"⟩, .variableField claimsName),
    (⟨"env", "*"⟩, .variableField environmentName),
    (⟨"environment", "*"⟩, .variableField environmentName)]

end Request

end AccessPolicy
