import AccessPolicy.Expression.Error
import AccessPolicy.Number.Whole

/-!
# Errors of policies

Why documents hold no policies, why a configuration is refused, and why there is no decision.
-/

namespace AccessPolicy

/-- What is wrong with a configuration. -/
inductive ConfigError where
  /-- The text or the object is no configuration. -/
  | unreadable
  /-- The implicit role has no name. -/
  | emptyImplicitRole
  /-- No depth of inheritance is allowed. -/
  | zeroDepth
deriving DecidableEq

/-- What is wrong with a document. -/
inductive DocumentError where
  | emptyPolicyId
  | emptyRoleId
  | policiesNotList
  | rolesNotList
  | contextNotObject
  | resourceNotText
deriving DecidableEq

/-- What went wrong with policies. -/
inductive PolicyError where
  /-- An expression is malformed or has no value. -/
  | expression (error : ExprError)
  /-- The pattern of a resource is no text. -/
  | patternType (source found : String)
  /-- A role inherits itself along the path. -/
  | circularInheritance (path : List String)
  /-- A role is reached by more steps of inheritance than allowed. -/
  | depthExceeded (role : String) (depth : Nat)
  /-- A document is malformed. -/
  | document (error : DocumentError)
  /-- A configuration is refused. -/
  | config (error : ConfigError)
  /-- A value does not have the form of its document. -/
  | malformed
deriving DecidableEq

namespace ConfigError

/-- The message of an error. -/
def message : ConfigError → String
  | .unreadable => "unreadable configuration"
  | .emptyImplicitRole => "implicit_role must not be empty"
  | .zeroDepth => "max_role_depth must be at least 1"

end ConfigError

namespace DocumentError

/-- The message of an error. -/
def message : DocumentError → String
  | .emptyPolicyId => "policy id must not be empty"
  | .emptyRoleId => "role id must not be empty"
  | .policiesNotList => "policies must be a JSON array"
  | .rolesNotList => "roles must be a JSON array"
  | .contextNotObject => "decision context must be a JSON object"
  | .resourceNotText => "resource must be a string"

end DocumentError

namespace PolicyError

/-- The message of an error. -/
def message : PolicyError → String
  | .expression error => "Expression error: " ++ error.message
  | .patternType source found =>
    "Resource expression '" ++ source ++ "' evaluated to " ++ found ++ ", expected a string"
  | .circularInheritance path => "Circular role inheritance: " ++ " -> ".intercalate path
  | .depthExceeded role depth =>
    "Role '" ++ role ++ "' exceeds the maximum inheritance depth of " ++ integerText depth
  | .document error => "Invalid document: " ++ error.message
  | .config error => "Configuration error: " ++ error.message
  | .malformed => "JSON error"

end PolicyError

end AccessPolicy
