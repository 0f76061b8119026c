import AccessPolicy.Directory
import AccessPolicy.Policy.Document

/-!
# Sources of policies

Decisions ask a source for its roles and for the policies that a role refers to, and know nothing
else of it (`PolicySource`). One kind of source keeps policies and roles in memory
(`PolicyLists.toSource`). Where a name is given twice there, the last definition counts and stands
in the place of the first.
-/

namespace AccessPolicy

/-- What decisions are based on. A source may have policies for names that none of its roles
bears. -/
structure PolicySource where
  /-- The policies. -/
  policies : List Policy
  /-- The roles. -/
  roles : List Role
  /-- The policies that the role of a name refers to, in order. -/
  policiesOfRole : (id : String) → List Policy

/-- Policies and roles in memory. -/
structure PolicyLists where
  /-- Where the policies are found. -/
  policyDirectory : Directory Policy.id := {}
  /-- Where the roles are found. -/
  roleDirectory : Directory Role.id := {}

namespace PolicyLists

/-- The given policies and roles. -/
def ofLists (policies : List Policy) (roles : List Role) : PolicyLists where
  policyDirectory := .ofList Policy.id policies
  roleDirectory := .ofList Role.id roles

/-- The policy of a name. -/
def policy? (lists : PolicyLists) (id : String) : Option Policy :=
  lists.policyDirectory.find? id

/-- The role of a name. -/
def role? (lists : PolicyLists) (id : String) : Option Role :=
  lists.roleDirectory.find? id

/-- The policies that a role refers to, in order. Unknown names are skipped. -/
def policiesOfRole (lists : PolicyLists) (id : String) : List Policy :=
  match lists.role? id with
  | some role => role.policies.filterMap lists.policy?
  | none => []

/-- The source of what is in memory. -/
def toSource (lists : PolicyLists) : PolicySource where
  policies := lists.policyDirectory.items.toList
  roles := lists.roleDirectory.items.toList
  policiesOfRole := lists.policiesOfRole

/-- The items of a list of documents; null has none. -/
def documents {α : Type} (error : DocumentError) (read? : Value → Option α) :
    Value → Compiler (List α)
  | .null => pure []
  | .array items => Compiler.decode (fun items : List Value => items.mapM read?) items
  | _ => throw (.document error)

/-- What lists of policy and role documents define. -/
def ofValues (policies roles : Value) : Compiler PolicyLists := do
  let policies ← documents .policiesNotList PolicyDocument.ofValue? policies
  let roles ← documents .rolesNotList RoleDocument.ofValue? roles
  let policies ← policies.mapM Compiler.policy
  let roles ← roles.mapM Compiler.role
  return ofLists policies roles

end PolicyLists

namespace PolicySource

/-- The source with the given policies and roles. -/
def ofLists (policies : List Policy) (roles : List Role) : PolicySource :=
  (PolicyLists.ofLists policies roles).toSource

/-- The source that lists of policy and role documents define. -/
def ofValues (policies roles : Value) : Compiler PolicySource := do
  return (← PolicyLists.ofValues policies roles).toSource

end PolicySource

end AccessPolicy
