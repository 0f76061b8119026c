import AccessPolicy.Decision.Matching
import AccessPolicy.Decision.RoleGraph
import AccessPolicy.Policy.Config

/-!
# Decisions by inherited roles

A decision over everything that the caller's roles grant: the policies of the roles and of the
roles that they inherit, and the statements of these roles themselves. A role whose condition
fails grants nothing, but what it inherits still counts. Statements that deny are ignored.
-/

namespace AccessPolicy

/-- Decisions by inherited roles, by a source and a configuration. -/
structure RoleGrants where
  /-- The policies and roles. -/
  source : PolicySource
  /-- The roles with what they inherit. -/
  graph : RoleGraph
  /-- The configuration. -/
  config : Config

namespace RoleGrants

/-- The decisions of a source, unless the configuration makes no sense or roles inherit in a
cycle. -/
def ofSource (source : PolicySource) (config : Config) : Except PolicyError RoleGrants := do
  config.validate
  let graph ← RoleGraph.ofList source.roles config.maxRoleDepth
  return ⟨source, graph, config⟩

/-- The priority of a role, which is zero for roles that the source does not list. -/
def priority (engine : RoleGrants) (id : String) : Int :=
  ((engine.graph.role? id).map (·.priority)).getD 0

/-- The roles of a caller with all that they inherit, those of higher priority first. -/
def expandRoles (engine : RoleGrants) (request : Request) : Except PolicyError (List String) := do
  let ids ← engine.graph.expandAll (request.roles engine.config.implicitRole)
  return ids.mergeSort fun a b => engine.priority b ≤ engine.priority a

/-- Whether a role grants anything in a context. Roles that are not listed do: the source may have
policies for them. -/
def inEffect (engine : RoleGrants) (context : Context) (id : String) : Decision Bool :=
  match engine.graph.role? id with
  | some role => .ofExpression (role.condition.eval context)
  | none => return true

/-- What roles in effect grant: the statements of their policies, each policy once, and then
their own. -/
def statements (engine : RoleGrants) (ids : List String) : List Statement :=
  (distinctPolicies (ids.flatMap engine.source.policiesOfRole)).flatMap (·.statements) ++
    (ids.filterMap engine.graph.role?).flatMap (·.statements)

/-- The actions that the caller may do. -/
def allowedActions (engine : RoleGrants) (request : Request) : Decision (List String) := do
  let context := request.toContext
  let ids ← Decision.ofResult (engine.expandRoles request)
  let ids ← ids.filterM (engine.inEffect context)
  -- Only statements that allow are tested, so an error in another one does not count.
  let applying ← (engine.statements ids).filterM fun statement =>
    if statement.effect = .allow then statement.applies context request.resource?
    else return false
  return distinctActions applying

/-- Whether the caller may do something. -/
def isAllowed (engine : RoleGrants) (request : Request) (action : String) : Decision Bool :=
  return (← engine.allowedActions request).contains action

end RoleGrants

end AccessPolicy
