import AccessPolicy.Json.Record
import AccessPolicy.Policy.Error
import AccessPolicy.Policy.Request
import AccessPolicy.Standard.Library
import AccessPolicy.Toml.Reader

/-!
# Configurations

The settings of decisions, and the expression engine that they describe.
-/

namespace AccessPolicy

/-- The settings of decisions. -/
structure Config where
  /-- The role that every caller has. -/
  implicitRole : String := "anonymous"
  /-- The number of steps of inheritance that are allowed. -/
  maxRoleDepth : Nat := 32
  /-- The number of templates that the expression engine keeps. -/
  cacheCapacity : Nat := 1000
  /-- Whether denials are logged. -/
  logDenials : Bool := true
deriving DecidableEq

namespace Config

/-- A natural number below `2 ^ 64`. -/
def word? (v : Value) : Option Nat :=
  v.natural?.filter fun n => n < Nat.pow 2 64

/-- The configuration that a value holds. -/
def ofValue? (v : Value) : Option Config := do
  let fields ← v.record? ["implicit_role", "max_role_depth", "expression_cache_capacity",
    "log_denials"]
  let default : Config := {}
  return {
    implicitRole :=
      ← Entries.optional? "implicit_role" Value.text? default.implicitRole fields
    maxRoleDepth := ← Entries.optional? "max_role_depth" word? default.maxRoleDepth fields
    cacheCapacity :=
      ← Entries.optional? "expression_cache_capacity" word? default.cacheCapacity fields
    logDenials := ← Entries.optional? "log_denials" Value.truth? default.logDenials fields }

/-- The value that writes a configuration. -/
def toValue (config : Config) : Value :=
  .object [("implicit_role", .string config.implicitRole),
    ("max_role_depth", .ofNat config.maxRoleDepth),
    ("expression_cache_capacity", .ofNat config.cacheCapacity),
    ("log_denials", .bool config.logDenials)]

/-- Whether the settings make sense: the implicit role has a name and roles may inherit. -/
def validate (config : Config) : Except PolicyError Unit :=
  if Text.allBlank config.implicitRole then .error (.config .emptyImplicitRole)
  else if config.maxRoleDepth = 0 then .error (.config .zeroDepth)
  else .ok ()

/-- The configuration that a TOML document holds, if its settings make sense. -/
def ofToml (text : String) : Except PolicyError Config :=
  match (Toml.read? text).bind ofValue? with
  | some config => config.validate.map fun _ => config
  | none => .error (.config .unreadable)

/-- The expression engine for policies: the given keys come first, then those of requests, and
then the standard library. -/
def engine (config : Config) (keys : List KeyResolver) : Engine where
  toLibrary := Library.build (keys ++ [Request.resolver]) [] [] [] true
  capacity := config.cacheCapacity

end Config

end AccessPolicy
