import AccessPolicy.Proofs.Decision.Cycles

/-!
# Which definition counts

Policies and roles in memory are found by positions, and a graph of roles keeps roles of its own.
All of them agree on what a name stands for: the definition that was given last under it
(`PolicySource.serves_ofLists`).
-/

namespace AccessPolicy

namespace PolicySource

/-- Putting roles into a graph one by one leaves them in the order that they have in memory. -/
theorem ofList_roleDirectory (lists : PolicyLists) (maxDepth : Nat) :
    RoleGraph.ofList lists.roleDirectory.items.toList maxDepth =
      RoleGraph.ofRoles lists.roleDirectory.entries maxDepth :=
  congrArg (RoleGraph.ofRoles · maxDepth) (rolesByName_toSource lists)

/-- Lists of policies and roles are served from memory as they were given. A role refers to the
known policies that its last definition names, in the order in which it names them, and a graph of
the roles has the same role under every name. -/
theorem serves_ofLists (policies : List Policy) (roles : List Role) :
    let lists := PolicyLists.ofLists policies roles
    lists.policyDirectory.Serves policies lists.policy? ∧
      lists.roleDirectory.Serves roles lists.role? ∧
      (∀ id, lists.toSource.policiesOfRole id =
        (((roles.findRev? fun role => role.id = id).map (·.policies)).getD []).filterMap fun name =>
          policies.findRev? fun policy => policy.id = name) ∧
      ∀ maxDepth graph, RoleGraph.ofList lists.toSource.roles maxDepth = .ok graph →
        ∀ id, graph.role? id = lists.role? id := by
  intro lists
  refine ⟨Directory.serves_ofList policies, Directory.serves_ofList roles, ?_, ?_⟩
  · intro id
    have hpolicy : lists.policy? = fun name => policies.findRev? fun policy => policy.id = name :=
      funext (PolicyLists.policy?_ofLists policies roles)
    change lists.policiesOfRole id = _
    rw [PolicyLists.policiesOfRole, hpolicy, PolicyLists.role?_ofLists]
    cases roles.findRev? fun role => role.id = id <;> rfl
  · intro maxDepth graph hgraph id
    rw [RoleGraph.eq_of_ofRoles hgraph]
    exact (get?_rolesByName _ id).trans (role?_toSource lists id)

/-- A policy and a role are given again behind other ones. The role inherited itself before, and
now it names policies twice and policies that are unknown. -/
theorem serves_ofLists_redefined :
    let oldReading : Policy := ⟨"reading", "", [{ effect := .allow, actions := ["report:Get"] }]⟩
    let writing : Policy := ⟨"writing", "", [{ effect := .allow, actions := ["report:Put"] }]⟩
    let reading : Policy := ⟨"reading", "", [{ effect := .deny, actions := ["report:Get"] }]⟩
    let oldAdmin : Role := { id := "admin", label := "", inherits := ["admin"] }
    let staff : Role := { id := "staff", label := "", policies := ["writing"] }
    let admin : Role :=
      { id := "admin", label := "", inherits := ["staff"],
        policies := ["reading", "missing", "writing", "reading"] }
    let lists := PolicyLists.ofLists [oldReading, writing, reading] [oldAdmin, staff, admin]
    let graph : RoleGraph := ⟨lists.roleDirectory.entries, 32⟩
    RoleGraph.ofList lists.toSource.roles 32 = .ok graph ∧
      graph.role? "admin" = some admin ∧ graph.role? "guest" = none ∧
      lists.policyDirectory.items.toList.map (·.id) = ["reading", "writing"] ∧
      lists.policy? "reading" = some reading ∧ lists.policy? "missing" = none ∧
      lists.toSource.policiesOfRole "admin" = [reading, writing, reading] := by
  intro oldReading writing reading oldAdmin staff admin lists graph
  have hkeys : Entries.keys lists.roleDirectory.entries = ["admin", "staff"] := rfl
  have hadmin : RoleGraph.parents lists.roleDirectory.entries "admin" = ["staff"] := rfl
  have hstaff : RoleGraph.parents lists.roleDirectory.entries "staff" = [] := rfl
  have hgraph : RoleGraph.ofList lists.toSource.roles 32 = .ok graph := by
    change RoleGraph.ofList lists.roleDirectory.items.toList 32 = .ok graph
    rw [ofList_roleDirectory]
    simp [RoleGraph.ofRoles_eq_findCycle, RoleGraph.findCycle, hkeys, hadmin, hstaff, graph]
  obtain ⟨hpolicies, hroles, hrefers, hsame⟩ :=
    serves_ofLists [oldReading, writing, reading] [oldAdmin, staff, admin]
  refine ⟨hgraph, (hsame 32 graph hgraph "admin").trans rfl, ?_,
    hpolicies.names_eq.trans (by decide +kernel), rfl, ?_, (hrefers "admin").trans rfl⟩
  · rw [hsame 32 graph hgraph]
    exact (hroles.find?_eq_none_iff _).2 (by decide +kernel)
  · exact (hpolicies.find?_eq_none_iff _).2 (by decide +kernel)

end PolicySource

end AccessPolicy
