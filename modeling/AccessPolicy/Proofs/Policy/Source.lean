import AccessPolicy.Policy.Source
import AccessPolicy.Proofs.Directory
import Mathlib.Data.Set.Basic

/-!
# What a source of policies holds

Of the roles that a source lists under a name, the last one counts (`PolicySource.role?`). A name
may also stand for no role, and the source may have policies for it nevertheless; a name is known
if the source lists a role under it or has policies for it (`PolicySource.Knows`).

A source made of lists answers for a name with the definition that was given last under it
(`PolicyLists.policy?_ofLists`, `PolicySource.role?_ofLists`), and knows the names of its roles at
most. The policies that its roles refer to are `PolicySource.Held`, stated in terms of the lists
alone; a name stands for one of them at most.
-/

namespace AccessPolicy

/-! ### Policies and roles in memory -/

namespace PolicyLists

variable (policies : List Policy) (roles : List Role)

/-- The policy of a name is the last one that was given under it. -/
theorem policy?_ofLists (id : String) :
    (ofLists policies roles).policy? id = policies.findRev? fun policy => policy.id = id :=
  Directory.find?_ofList policies id

/-- The role of a name is the last one that was given under it. -/
theorem role?_ofLists (id : String) :
    (ofLists policies roles).role? id = roles.findRev? fun role => role.id = id :=
  Directory.find?_ofList roles id

end PolicyLists

/-! ### Sources -/

namespace PolicySource

/-- The roles that a source lists, by their names. -/
def rolesByName (source : PolicySource) : Entries String Role :=
  Entries.ofList (source.roles.map fun role => (role.id, role))

/-- The role that a source lists last under a name. -/
def role? (source : PolicySource) (id : String) : Option Role :=
  source.roles.findRev? fun role => role.id = id

/-- The source lists a role under the name, or it has policies for the name. -/
def Knows (source : PolicySource) (id : String) : Prop :=
  (source.role? id).isSome ∨ source.policiesOfRole id ≠ []

/-- A name stands for one policy only, whichever roles refer to it. -/
def NamesOnce (source : PolicySource) : Prop :=
  ∀ {id other : String}, ∀ p ∈ source.policiesOfRole id, ∀ q ∈ source.policiesOfRole other,
    p.id = q.id → p = q

/-- A map of the roles has the last one of each name. -/
theorem get?_rolesByName (source : PolicySource) (id : String) :
    Entries.get? id source.rolesByName = source.role? id := by
  rw [rolesByName, ← Directory.entries_ofList, ← Directory.find?_eq_get?_entries,
    Directory.find?_ofList, role?]

/-- What a name stands for is listed. -/
theorem mem_of_role? {source : PolicySource} {id : String} {role : Role}
    (h : source.role? id = some role) : role ∈ source.roles :=
  (Entries.mem_and_of_findRev? h).1

/-- What a map of the roles has under a name is listed. -/
theorem mem_of_get? (source : PolicySource) {id : String} {role : Role}
    (h : Entries.get? id source.rolesByName = some role) : role ∈ source.roles :=
  mem_of_role? ((source.get?_rolesByName id).symm.trans h)

/-! ### Sources made of lists -/

/-- A directory has a map of its roles already. -/
theorem rolesByName_toSource (lists : PolicyLists) :
    lists.toSource.rolesByName = lists.roleDirectory.entries :=
  Entries.ofList_of_nodup lists.roleDirectory.nodup_keys_entries

/-- The source that is made of lists has the roles that are found in them. -/
theorem role?_toSource (lists : PolicyLists) (id : String) :
    lists.toSource.role? id = lists.role? id := by
  rw [← get?_rolesByName, rolesByName_toSource]
  exact (Directory.find?_eq_get?_entries lists.roleDirectory id).symm

variable (policies : List Policy) (roles : List Role)

/-- The role of a name is the last one that was given under it. -/
theorem role?_ofLists (id : String) :
    (ofLists policies roles).role? id = roles.findRev? fun role => role.id = id :=
  (role?_toSource _ id).trans (PolicyLists.role?_ofLists policies roles id)

variable {policies roles} in
/-- What is listed was given. -/
theorem mem_of_mem_roles_ofLists {role : Role} (h : role ∈ (ofLists policies roles).roles) :
    role ∈ roles := by
  have hfound : (PolicyLists.ofLists policies roles).role? role.id = some role :=
    Directory.find?_eq_some_iff.2 ⟨Array.mem_toList_iff.1 h, rfl⟩
  rw [PolicyLists.role?_ofLists] at hfound
  exact (Entries.mem_and_of_findRev? hfound).1

/-- The role of a name refers to a policy, where the last role and the last policy given under
a name count. -/
def RefersTo (id : String) (policy : Policy) : Prop :=
  ∃ role, (roles.findRev? fun role => role.id = id) = some role ∧
    ∃ name ∈ role.policies, (policies.findRev? fun policy => policy.id = name) = some policy

/-- The policies that the roles of some names refer to. -/
def Held (ids : Set String) : Set Policy :=
  {policy | ∃ id ∈ ids, RefersTo policies roles id policy}

variable {policies roles}

theorem mem_policiesOfRole_ofLists {id : String} {policy : Policy} :
    policy ∈ (ofLists policies roles).policiesOfRole id ↔ RefersTo policies roles id policy := by
  change policy ∈ (PolicyLists.ofLists policies roles).policiesOfRole id ↔ _
  rw [PolicyLists.policiesOfRole, PolicyLists.role?_ofLists, RefersTo]
  cases roles.findRev? fun role => role.id = id with
  | none => simp
  | some role => simp only [List.mem_filterMap, PolicyLists.policy?_ofLists, Option.some.injEq,
      exists_eq_left']

/-- The policies of some roles are those that one of them refers to. -/
theorem mem_flatMap_policiesOfRole {ids : List String} {policy : Policy} :
    policy ∈ ids.flatMap (ofLists policies roles).policiesOfRole ↔
      policy ∈ Held policies roles {id | id ∈ ids} := by
  simp only [List.mem_flatMap, mem_policiesOfRole_ofLists]
  rfl

/-- The policy that was given last under a name bears it. -/
theorem id_of_findRev? {id : String} {policy : Policy}
    (h : (policies.findRev? fun policy => policy.id = id) = some policy) : policy.id = id :=
  of_decide_eq_true (Entries.mem_and_of_findRev? h).2

/-- What the role of a name refers to was given. -/
theorem RefersTo.mem {id : String} {policy : Policy} (h : RefersTo policies roles id policy) :
    policy ∈ policies := by
  obtain ⟨role, -, name, -, hpolicy⟩ := h
  exact (Entries.mem_and_of_findRev? hpolicy).1

/-- A name stands for one of the policies that roles refer to at most. -/
theorem eq_of_mem_held {ids : Set String} {p q : Policy} (hp : p ∈ Held policies roles ids)
    (hq : q ∈ Held policies roles ids) (h : p.id = q.id) : p = q := by
  obtain ⟨-, -, -, -, a, -, ha⟩ := hp
  obtain ⟨-, -, -, -, b, -, hb⟩ := hq
  have hab : a = b := by rw [← id_of_findRev? ha, ← id_of_findRev? hb, h]
  subst hab
  exact Option.some.inj (ha.symm.trans hb)

/-- In a source made of lists a name stands for one policy only. -/
theorem namesOnce_ofLists : (ofLists policies roles).NamesOnce := by
  intro id other p hp q hq
  have hheld {name : String} {policy : Policy}
      (h : policy ∈ (ofLists policies roles).policiesOfRole name) :
      policy ∈ Held policies roles Set.univ :=
    ⟨name, Set.mem_univ name, mem_policiesOfRole_ofLists.1 h⟩
  exact eq_of_mem_held (hheld hp) (hheld hq)

end PolicySource

end AccessPolicy
