import AccessPolicy.Decision.Matching
import AccessPolicy.Policy.Config

/-!
# Decisions where denials win

A decision over the policies of the caller's roles: an action is allowed if some statement allows
it and none denies it. Inheritance and the statements of the roles themselves do not count.
-/

namespace AccessPolicy

/-- How a decision came about. -/
structure ActionCheck where
  /-- Whether the action is allowed. -/
  allowed : Bool
  /-- The number of statements that match the action and the resource. -/
  matching : Nat
  /-- The number of those that allow the action. -/
  allowing : Nat
  /-- The number of those that deny the action. -/
  denying : Nat
deriving DecidableEq

/-- The value that writes how a decision came about. -/
def ActionCheck.toValue (check : ActionCheck) : Value :=
  .object [("allowed", .bool check.allowed), ("total_statements", .ofNat check.matching),
    ("allow_count", .ofNat check.allowing), ("deny_count", .ofNat check.denying)]

/-- How many statements match so far, and how many of them allow and deny the action. -/
structure Tally where
  /-- The number of statements that match the action and the resource. -/
  matching : Nat := 0
  /-- The number of those that allow the action. -/
  allowing : Nat := 0
  /-- The number of those that deny the action. -/
  denying : Nat := 0
deriving DecidableEq

namespace Tally

/-- The tally after a statement that matches and whose condition holds or does not. -/
def add (tally : Tally) (effect : Effect) (holds : Bool) : Tally :=
  match effect, holds with
  | _, false => { tally with matching := tally.matching + 1 }
  | .allow, true =>
    { tally with matching := tally.matching + 1, allowing := tally.allowing + 1 }
  | .deny, true =>
    { tally with matching := tally.matching + 1, denying := tally.denying + 1 }

/-- What the tally decides. -/
def toCheck (tally : Tally) : ActionCheck where
  allowed := tally.denying = 0 && 0 < tally.allowing
  matching := tally.matching
  allowing := tally.allowing
  denying := tally.denying

end Tally

/-- Decisions where denials win, by a source and a configuration. -/
structure DenyOverrides where
  /-- The policies and roles. -/
  source : PolicySource
  /-- The configuration. -/
  config : Config

namespace DenyOverrides

/-- The decisions of a source, unless the configuration makes no sense. -/
def ofSource (source : PolicySource) (config : Config) : Except PolicyError DenyOverrides := do
  config.validate
  return ⟨source, config⟩

/-- The policies of the caller's roles, each once. -/
def policies (engine : DenyOverrides) (request : Request) : List Policy :=
  distinctPolicies
    ((request.roles engine.config.implicitRole).flatMap engine.source.policiesOfRole)

/-- The statements that a decision considers. -/
def statements (engine : DenyOverrides) (request : Request) : List Statement :=
  (engine.policies request).flatMap (·.statements)

/-- The tally after one more statement. -/
def count (context : Context) (resource : Option String) (action : String) (tally : Tally)
    (statement : Statement) : Decision Tally := do
  if ← statement.matchesAction action then
    if ← statement.matchesResource context resource then
      return tally.add statement.effect (← statement.holds context)
    else return tally
  else return tally

/-- Whether the caller may do something, and why. A denial is logged if the configuration asks
for it. -/
def check (engine : DenyOverrides) (request : Request) (action : String) :
    Decision ActionCheck := do
  let tally ← (engine.statements request).foldlM
    (count request.toContext request.resource? action) {}
  if 0 < tally.denying && engine.config.logDenials then
    Decision.ofOutcome (.emit (.denied request.claims.sub action))
  return tally.toCheck

/-- Whether the caller may do something. -/
def isAllowed (engine : DenyOverrides) (request : Request) (action : String) : Decision Bool :=
  return (← engine.check request action).allowed

/-- The actions of the statements that allow something in the context of the request. Denials
are not taken off. -/
def allowedActions (engine : DenyOverrides) (request : Request) : Decision (List String) := do
  let context := request.toContext
  -- Statements that deny are tested too, so an error in one of them counts.
  let applying ← (engine.statements request).filterM fun statement =>
    return (← statement.applies context request.resource?) && statement.effect = .allow
  return distinctActions applying

end DenyOverrides

end AccessPolicy
