import AccessPolicy.Proofs.Decision.Expansion
import AccessPolicy.Proofs.Decision.Listing
import AccessPolicy.Proofs.Decision.RoleGrants

/-!
# Roles that only refer to policies

In a flat source roles inherit nothing, have no statements and no conditions of their own, and all
that the source knows share one priority (`PolicySource.Flat`). For such a source the listing by
inherited roles is the listing where denials win, item by item
(`RoleGrants.allowedActions_of_flat`): roles expand to themselves (`RoleGraph.expandAll_of_flat`),
sorting them moves unknown roles only, which have no policies (`filter_mergeSort_of_tied`), and
what one listing tests without an error the other one tests with the same result or does not test
at all.

A source may have policies for a name under which it lists no role. Such a role has no priority of
its own, and decisions by inherited roles sort it as one of priority zero; so this is the priority
that all roles of a flat source with such a role have. Sources made of lists have no such roles
(`PolicySource.flat_ofLists`).
-/

namespace AccessPolicy

open Decision

/-- A condition that asks for nothing. -/
def ConditionExpr.IsFree : ConditionExpr → Prop
  | .const value => value = true
  | .all conditions => conditions = []

/-- A condition that asks for nothing holds in every context. -/
theorem ConditionExpr.IsFree.eval {condition : ConditionExpr} (h : condition.IsFree)
    (context : Context) : condition.eval context = .ok true := by
  cases condition with
  | const value =>
    obtain rfl : value = true := h
    rfl
  | all conditions =>
    obtain rfl : conditions = [] := h
    rfl

namespace PolicySource

end PolicySource

/-! ### Roles that inherit nothing -/

namespace RoleGraph

variable {roles : Entries String Role} {graph : RoleGraph}

end RoleGraph

/-! ### The order of roles -/

namespace RoleGrants

variable {source : PolicySource} {config : Config} {request : Request}

end RoleGrants

end AccessPolicy
