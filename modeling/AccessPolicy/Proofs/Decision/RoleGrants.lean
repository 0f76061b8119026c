import AccessPolicy.Decision.RoleGrants
import AccessPolicy.Proofs.Decision.Distinct
import AccessPolicy.Proofs.Decision.Matching
import AccessPolicy.Proofs.Decision.RoleGraph

/-!
# Decisions by inherited roles

Over a source that was made of lists, the actions of a caller are those that the roles in effect
grant (`RoleGrants.lists_of_answer`). Which roles these are, and what they grant, is stated in
terms of the lists alone: `RoleGrants.Expanded`, `RoleGrants.Open` and `RoleGrants.Granted` know
nothing about the order of the search, about priorities or about policies that roles share.
-/

namespace AccessPolicy.RoleGrants

open Decision PolicySource

/-! ### What lists of policies and roles grant -/

section Source

variable (policies : List Policy) (roles : List Role) (config : Config) (request : Request)

/-- The role of a name, which is the last one that was given under it, inherits another one. -/
def Inherits (id parent : String) : Prop :=
  ∃ role, (roles.findRev? fun role => role.id = id) = some role ∧ parent ∈ role.inherits

/-- The claimed roles and the implicit one, with all that they inherit in any number of steps. -/
def Expanded : Set String :=
  {id | ∃ root, (root ∈ request.claims.roles ∨ root = config.implicitRole) ∧
    Relation.ReflTransGen (Inherits roles) root id}

/-- The role of a name has a condition that holds, or there is no such role. -/
def Open (id : String) : Prop :=
  ∀ role, (roles.findRev? fun role => role.id = id) = some role →
    (role.condition.eval request.toContext).result = .ok true

/-- The role of a name has a condition that returns an error. -/
def Broken (id : String) : Prop :=
  ∃ role, (roles.findRev? fun role => role.id = id) = some role ∧
    ∃ e, (role.condition.eval request.toContext).result = .error e

/-- A policy that the role of a name refers to has the statement, or the role itself has it. -/
def Grants (id : String) (s : Statement) : Prop :=
  (∃ policy, RefersTo policies roles id policy ∧ s ∈ policy.statements) ∨
    ∃ role, (roles.findRev? fun role => role.id = id) = some role ∧ s ∈ role.statements

/-- The statements that the roles in effect grant. -/
def Granted : Set Statement :=
  {s | ∃ id ∈ Expanded roles config request, Open roles request id ∧ Grants policies roles id s}

end Source

/-- A list of the actions that some statements allow on a request, each once. -/
structure Lists (granted : Set Statement) (request : Request) (actions : List String) : Prop where
  nodup : actions.Nodup
  mem_iff (action : String) : action ∈ actions ↔
    ∃ s ∈ granted, s.effect = .allow ∧ action ∈ s.actions ∧ s.Passes request

variable {policies policies' : List Policy} {roles roles' : List Role} {config config' : Config}
  {engine engine' : RoleGrants} {request request' : Request}

/-- If one set of statements makes up for another, nothing is missing from the list. -/
theorem Lists.subset {granted granted' : Set Statement} {actions actions' : List String}
    (h : Lists granted request actions) (h' : Lists granted' request' actions')
    (hcarries : ∀ s ∈ granted, s.effect = .allow → s.Passes request →
      s ∈ granted' ∧ s.Passes request') : actions ⊆ actions' := by
  intro action haction
  obtain ⟨s, hs, heffect, hlisted, hpasses⟩ := (h.mem_iff action).1 haction
  obtain ⟨hs', hpasses'⟩ := hcarries s hs heffect hpasses
  exact (h'.mem_iff action).2 ⟨s, hs', heffect, hlisted, hpasses'⟩

/-! ### The steps of a decision -/

section Steps

variable (engine : RoleGrants) (request : Request)

/-- The test that statements must pass to count. -/
def test (s : Statement) : Decision Bool :=
  if s.effect = .allow then s.applies request.toContext request.resource? else return false

theorem cacheBlind_inEffect (context : Context) (id : String) :
    (engine.inEffect context id).CacheBlind := by
  unfold inEffect
  split
  · exact cacheBlind_ofOutcome _
  · exact cacheBlind_pure true

theorem cacheBlind_test (s : Statement) : (test request s).CacheBlind := by
  unfold test
  split
  · exact s.cacheBlind_applies _ _
  · exact cacheBlind_pure false

theorem cacheBlind_list (ids : List String) :
    ((engine.statements ids).filterM (test request) >>= fun applying =>
      pure (distinctActions applying)).CacheBlind :=
  (CacheBlind.filterM (cacheBlind_test request) _).bind fun _ => cacheBlind_pure _

theorem cacheBlind_expanded (ids : List String) :
    (ids.filterM (engine.inEffect request.toContext) >>= fun ids =>
      (engine.statements ids).filterM (test request) >>= fun applying =>
        pure (distinctActions applying)).CacheBlind :=
  (CacheBlind.filterM (cacheBlind_inEffect engine _) ids).bind (cacheBlind_list engine request)

theorem cacheBlind_allowedActions : (engine.allowedActions request).CacheBlind :=
  (cacheBlind_ofOutcome _).bind (cacheBlind_expanded engine request)

/-- The answer of a decision, in terms of the answers of its steps. -/
theorem answer_allowedActions :
    (engine.allowedActions request).answer = do
      let ids ← engine.expandRoles request
      let ids ← ids.filterM fun id => (engine.inEffect request.toContext id).answer
      let applying ← (engine.statements ids).filterM fun s => (test request s).answer
      return distinctActions applying := by
  refine (answer_bind (cacheBlind_ofOutcome _) (cacheBlind_expanded engine request)).trans ?_
  refine bind_congr fun ids => ?_
  refine (answer_bind (CacheBlind.filterM (cacheBlind_inEffect engine _) ids)
    (cacheBlind_list engine request)).trans ?_
  rw [answer_filterM (cacheBlind_inEffect engine _)]
  refine bind_congr fun ids => ?_
  refine (answer_bind (CacheBlind.filterM (cacheBlind_test request) _)
    fun _ => cacheBlind_pure _).trans ?_
  rw [answer_filterM (cacheBlind_test request)]
  rfl

/-- Whether an action is allowed is whether it is listed. -/
theorem answer_isAllowed (action : String) :
    (engine.isAllowed request action).CacheBlind ∧
      (engine.isAllowed request action).answer =
        (engine.allowedActions request).answer.map (·.contains action) := by
  have hblind := cacheBlind_allowedActions engine request
  refine ⟨hblind.bind fun _ => cacheBlind_pure _, ?_⟩
  refine (answer_bind hblind fun _ => cacheBlind_pure _).trans ?_
  cases (engine.allowedActions request).answer <;> rfl

variable {engine request}

theorem answer_test_eq_true_iff {s : Statement} :
    (test request s).answer = .ok true ↔ s.effect = .allow ∧ s.Passes request := by
  unfold test
  split
  next heffect => rw [Statement.answer_applies_eq_true_iff]; simp [heffect]
  next heffect => simp [heffect]

theorem answer_test_error_iff {s : Statement} :
    (∃ e, (test request s).answer = .error e) ↔ s.effect = .allow ∧ s.Fails request := by
  unfold test
  split
  next heffect => rw [Statement.answer_applies_error_iff]; simp [heffect]
  next heffect => simp [heffect]

end Steps

/-! ### Roles in effect and their statements -/

section Built

/-- A configuration that makes sense is used as it is, and so are roles without a cycle. -/
theorem eq_of_ofSource {source : PolicySource} (h : ofSource source config = .ok engine) :
    engine = ⟨source, ⟨source.rolesByName, config.maxRoleDepth⟩, config⟩ := by
  obtain ⟨-, -, h⟩ := bind_eq_ok_iff.1 h
  obtain ⟨graph, hgraph, h⟩ := bind_eq_ok_iff.1 h
  rw [← Except.ok.inj h, RoleGraph.eq_of_ofRoles hgraph]
  rfl

variable (built : ofSource (.ofLists policies roles) config = .ok engine)

include built

/-- The role of a name is the last one that was given under it. -/
theorem role?_graph (id : String) :
    engine.graph.role? id = roles.findRev? fun role => role.id = id := by
  rw [eq_of_ofSource built]
  exact (get?_rolesByName _ id).trans (role?_ofLists policies roles id)

theorem inherits_graph {id parent : String} :
    RoleGraph.Inherits engine.graph.roles id parent ↔ Inherits roles id parent := by
  have hrole := role?_graph built id
  rw [RoleGraph.role?] at hrole
  rw [RoleGraph.Inherits, RoleGraph.parents, Inherits, hrole]
  cases roles.findRev? fun role => role.id = id <;> simp

/-- Sorting by priority neither adds roles nor loses any. -/
theorem mem_expandRoles {ids : List String} (h : engine.expandRoles request = .ok ids)
    {id : String} : id ∈ ids ↔ id ∈ Expanded roles config request := by
  obtain ⟨found, hfound, h⟩ := bind_eq_ok_iff.1 h
  have hinherits : RoleGraph.Inherits engine.graph.roles = Inherits roles :=
    funext₂ fun _ _ => propext (inherits_graph built)
  have hconfig : engine.config = config := by rw [eq_of_ofSource built]
  rw [← Except.ok.inj h, List.mem_mergeSort, RoleGraph.mem_expandAll hfound, hinherits, hconfig]
  simp only [Request.mem_roles]
  rfl

theorem answer_inEffect_eq_true_iff {id : String} :
    (engine.inEffect request.toContext id).answer = .ok true ↔ Open roles request id := by
  rw [inEffect, role?_graph built, Open]
  cases roles.findRev? fun role => role.id = id with
  | none => simp
  | some role =>
    rw [answer_ofExpression]
    cases hresult : (role.condition.eval request.toContext).result <;>
      simp [hresult, Except.mapError]

theorem answer_inEffect_error_iff {id : String} :
    (∃ e, (engine.inEffect request.toContext id).answer = .error e) ↔
      Broken roles request id := by
  rw [inEffect, role?_graph built, Broken]
  cases roles.findRev? fun role => role.id = id with
  | none => simp
  | some role =>
    rw [answer_ofExpression]
    cases hresult : (role.condition.eval request.toContext).result <;>
      simp [hresult, Except.mapError]

/-- Policies that roles share are considered once, which loses no statement. -/
theorem mem_statements {ids : List String} {s : Statement} :
    s ∈ engine.statements ids ↔ ∃ id ∈ ids, Grants policies roles id s := by
  have hsource : engine.source = .ofLists policies roles := by rw [eq_of_ofSource built]
  rw [statements, hsource, List.mem_append, List.mem_flatMap, List.mem_flatMap]
  simp only [mem_distinctPolicies_ofLists, List.mem_filterMap, role?_graph built]
  constructor
  · rintro (⟨policy, ⟨id, hid, hrefers⟩, hs⟩ | ⟨role, ⟨id, hid, hrole⟩, hs⟩)
    · exact ⟨id, hid, .inl ⟨policy, hrefers, hs⟩⟩
    · exact ⟨id, hid, .inr ⟨role, hrole, hs⟩⟩
  · rintro ⟨id, hid, ⟨policy, hrefers, hs⟩ | ⟨role, hrole, hs⟩⟩
    · exact .inl ⟨policy, ⟨id, hid, hrefers⟩, hs⟩
    · exact .inr ⟨role, ⟨id, hid, hrole⟩, hs⟩

/-- The roles that pass the test of their conditions have the granted statements. -/
theorem mem_statements_inEffect {ids effective : List String}
    (hids : engine.expandRoles request = .ok ids)
    (heffective : (ids.filterM fun id => (engine.inEffect request.toContext id).answer) =
      .ok effective) {s : Statement} :
    s ∈ engine.statements effective ↔ s ∈ Granted policies roles config request := by
  rw [mem_statements built]
  simp only [mem_of_filterM_eq_ok heffective, mem_expandRoles built hids,
    answer_inEffect_eq_true_iff built, and_assoc]
  rfl

/-! ### The decision -/

/-- What a decision returns is a list of what the granted statements allow. -/
theorem lists_of_answer {actions : List String}
    (h : (engine.allowedActions request).answer = .ok actions) :
    Lists (Granted policies roles config request) request actions := by
  rw [answer_allowedActions] at h
  obtain ⟨ids, hids, h⟩ := bind_eq_ok_iff.1 h
  obtain ⟨effective, heffective, h⟩ := bind_eq_ok_iff.1 h
  obtain ⟨applying, happlying, h⟩ := bind_eq_ok_iff.1 h
  rw [← Except.ok.inj h]
  refine ⟨nodup_distinctActions applying, fun action => ?_⟩
  simp only [mem_distinctActions, mem_of_filterM_eq_ok happlying,
    mem_statements_inEffect built hids heffective, answer_test_eq_true_iff]
  exact exists_congr fun s => by tauto

/-- A decision fails where its roles do not expand, where one of them has a broken condition, and
where a granted statement that allows something fails. -/
theorem answer_allowedActions_error_iff :
    (∃ e, (engine.allowedActions request).answer = .error e) ↔
      (∃ e, engine.expandRoles request = .error e) ∨
        (∃ id ∈ Expanded roles config request, Broken roles request id) ∨
        ∃ s ∈ Granted policies roles config request, s.effect = .allow ∧ s.Fails request := by
  rw [answer_allowedActions, bind_error_iff]
  cases hids : engine.expandRoles request with
  | error e => simp
  | ok ids =>
    have hbroken : (∃ e, (ids.filterM fun id => (engine.inEffect request.toContext id).answer) =
        .error e) ↔ ∃ id ∈ Expanded roles config request, Broken roles request id := by
      simp only [filterM_error_iff, mem_expandRoles built hids, answer_inEffect_error_iff built]
    simp only [reduceCtorEq, exists_false, false_or, Except.ok.injEq, exists_eq_left',
      bind_error_iff, ← hbroken]
    -- Statements are tested only if no condition of a role is broken.
    cases heffective : ids.filterM fun id => (engine.inEffect request.toContext id).answer with
    | error e => simp
    | ok effective =>
      simp [pure, Except.pure, filterM_error_iff,
        mem_statements_inEffect built hids heffective, answer_test_error_iff]

end Built

/-- From every faithful cache, the decisions of an engine are what its lists grant: a list of the
actions that some granted statement allows, unless roles do not expand, a role that counts has a
broken condition, or a granted statement that allows something fails. Whether an action is allowed
is whether it is listed. So a run in which roles expand to more, conditions that held still hold,
and roles allow at least what they did, lists at least as much: the order of roles and policies,
priorities and statements that deny make no difference. -/
theorem allowedActions_granted {cache : PatternCache}
    (built : ofSource (.ofLists policies roles) config = .ok engine) (request : Request)
    (hcache : cache.Faithful) :
    (∀ {actions}, (engine.allowedActions request cache).1.result = .ok actions →
        Lists (Granted policies roles config request) request actions) ∧
      ((∃ e, (engine.allowedActions request cache).1.result = .error e) ↔
        (∃ e, engine.expandRoles request = .error e) ∨
          (∃ id ∈ Expanded roles config request, Broken roles request id) ∨
          ∃ s ∈ Granted policies roles config request, s.effect = .allow ∧ s.Fails request) ∧
      (∀ {action cache'}, cache'.Faithful → (engine.isAllowed request action cache').1.result =
        (engine.allowedActions request cache).1.result.map (·.contains action)) ∧
      (engine.allowedActions request cache).2.Faithful ∧
      ∀ {policies' roles' config' engine' cache' actions actions'} {request' : Request},
        ofSource (.ofLists policies' roles') config' = .ok engine' → cache'.Faithful →
        (engine.allowedActions request cache).1.result = .ok actions →
        (engine'.allowedActions request' cache').1.result = .ok actions' →
        Expanded roles config request ⊆ Expanded roles' config' request' →
        (∀ id ∈ Expanded roles config request, Open roles request id → Open roles' request' id ∧
          ∀ s, s.effect = .allow → Grants policies roles id s → Grants policies' roles' id s) →
        (∀ s ∈ Granted policies roles config request, s.effect = .allow → s.Passes request →
          s.Passes request') →
        actions ⊆ actions' := by
  have hresult {engine request} {cache : PatternCache} (h : cache.Faithful) :=
    (cacheBlind_allowedActions engine request).result_eq h
  rw [hresult hcache]
  refine ⟨lists_of_answer built, answer_allowedActions_error_iff built, ?_,
    (cacheBlind_allowedActions engine request).faithful hcache, ?_⟩
  · intro action cache' hcache'
    obtain ⟨hblind, hanswer⟩ := answer_isAllowed engine request action
    rw [hblind.result_eq hcache', hanswer]
  · intro policies' roles' config' engine' cache' actions actions' request' built' hcache' h h'
      hexpanded hopen hpasses
    rw [hresult hcache'] at h'
    refine (lists_of_answer built h).subset (lists_of_answer built' h') ?_
    rintro s ⟨id, hid, hidopen, hgrants⟩ heffect hs
    obtain ⟨hidopen', hcarries⟩ := hopen id hid hidopen
    exact ⟨⟨id, hexpanded hid, hidopen', hcarries s heffect hgrants⟩,
      hpasses s ⟨id, hid, hidopen, hgrants⟩ heffect hs⟩

/-- A role in the middle whose condition does not hold grants nothing itself, but what it inherits
and what it shares with others counts, once. -/
theorem allowedActions_granted_through_closed :
    let reading : Policy :=
      ⟨"reading", "", [{ effect := .allow, actions := ["report:List", "report:Get"] }]⟩
    let roles : List Role :=
      [{ id := "admin", label := "", inherits := ["manager", "staff"] },
        { id := "manager", label := "", inherits := ["staff"], policies := ["reading"],
          condition := .const false,
          statements := [{ effect := .allow, actions := ["log:Read"] }] },
        { id := "staff", label := "", policies := ["reading", "missing"],
          statements := [{ effect := .deny, actions := ["report:Get"] }] }]
    let source := PolicySource.ofLists [reading] roles
    let request : Request := { Moment.epoch with claims := { roles := ["admin"] } }
    let engine : RoleGrants := ⟨source, ⟨source.rolesByName, 32⟩, {}⟩
    ofSource source {} = .ok engine ∧ ({} : PatternCache).Faithful ∧
      (engine.allowedActions request {}).1.result = .ok ["report:List", "report:Get"] ∧
      Lists (Granted [reading] roles {} request) request ["report:List", "report:Get"] := by
  intro reading roles source request engine
  have hkeys : Entries.keys source.rolesByName = ["admin", "manager", "staff"] := rfl
  have hadmin : RoleGraph.parents source.rolesByName "admin" = ["manager", "staff"] := rfl
  have hmanager : RoleGraph.parents source.rolesByName "manager" = ["staff"] := rfl
  have hstaff : RoleGraph.parents source.rolesByName "staff" = [] := rfl
  have hanonymous : RoleGraph.parents source.rolesByName "anonymous" = [] := rfl
  have hgraph : RoleGraph.ofRoles source.rolesByName 32 = .ok engine.graph := by
    simp [RoleGraph.ofRoles_eq_findCycle, RoleGraph.findCycle, hkeys, hadmin, hmanager, hstaff,
      engine]
  have built : ofSource source {} = .ok engine :=
    bind_eq_ok_iff.2 ⟨(), rfl, bind_eq_ok_iff.2 ⟨engine.graph, hgraph, rfl⟩⟩
  have hvisit : engine.graph.visit 0 [] ["admin", "anonymous"] =
      .ok ["anonymous", "staff", "manager", "admin"] := by
    simp [RoleGraph.visit, engine, hadmin, hmanager, hstaff, hanonymous]
  -- The roles are sorted already, as none of them has a priority.
  have hexpand : engine.expandRoles request = .ok ["admin", "manager", "staff", "anonymous"] := by
    refine bind_eq_ok_iff.2 ⟨["admin", "manager", "staff", "anonymous"], ?_, ?_⟩
    · exact RoleGraph.expandAll_eq_ok_iff.2 ⟨_, hvisit, rfl⟩
    · exact congrArg Except.ok (List.mergeSort_of_pairwise (by decide +kernel))
  have hresult : (engine.allowedActions request {}).1.result =
      .ok ["report:List", "report:Get"] := by
    rw [allowedActions, hexpand]
    decide +kernel
  exact ⟨built, PatternCache.faithful_empty, hresult,
    (allowedActions_granted built request PatternCache.faithful_empty).1 hresult⟩

end AccessPolicy.RoleGrants
