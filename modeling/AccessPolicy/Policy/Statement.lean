import AccessPolicy.Expression.Condition

/-!
# Statements, policies and roles

A statement allows or denies the actions that match one of its globs on the resources that match
one of its patterns, under a condition. Policies are named groups of statements. Roles refer to
policies, have statements of their own and inherit other roles.
-/

namespace AccessPolicy

/-- What a statement does with the actions that it applies to. -/
inductive Effect where
  | allow
  | deny
deriving DecidableEq

/-- The name of an effect. -/
def Effect.name : Effect → String
  | .allow => "Allow"
  | .deny => "Deny"

/-- The pattern of resources. -/
structure ResourcePattern where
  /-- The text of the pattern. -/
  source : String
  /-- The template that the text denotes. -/
  template : Template

namespace ResourcePattern

/-- A pattern that is used as it is written. -/
def literal (text : String) : ResourcePattern :=
  ⟨text, .const (.string text)⟩

/-- Whether the pattern is a star alone. -/
def isWildcard (pattern : ResourcePattern) : Bool :=
  pattern.source == "*"

end ResourcePattern

/-- A statement. -/
structure Statement where
  /-- The name of the statement. -/
  id : Option String := none
  /-- What it does with actions. -/
  effect : Effect
  /-- The globs of its actions. -/
  actions : List String
  /-- The patterns of its resources. -/
  resource : List ResourcePattern := []
  /-- Whether it holds in a context. -/
  condition : ConditionExpr := .const true
  /-- Further data for what it allows. -/
  allow : Fields := []
  /-- Further data for what it denies. -/
  deny : Fields := []

/-- A named group of statements. -/
structure Policy where
  /-- The name. -/
  id : String
  /-- A name for readers. -/
  label : String
  /-- The statements. -/
  statements : List Statement

/-- A role. -/
structure Role where
  /-- The name. -/
  id : String
  /-- A name for readers. -/
  label : String
  /-- The names of its policies. -/
  policies : List String := []
  /-- The names of the roles that it inherits. -/
  inherits : List String := []
  /-- Its own statements. -/
  statements : List Statement := []
  /-- Whether it grants anything in a context. -/
  condition : ConditionExpr := .const true
  /-- Roles of higher priority come first. -/
  priority : Int := 0
  /-- Further data. -/
  customData : Fields := []

end AccessPolicy
