import AccessPolicy.Proofs.Decision.DepthLimit
import AccessPolicy.Proofs.Expression.Lookup
import AccessPolicy.Proofs.Policy.Compiled
import AccessPolicy.Proofs.Trace

/-!
# How decisions about loaded documents fail

Loading resolves everything in documents but the keys of conditions, which the context may know,
and the types of resources, which depend on values. So decisions about a loaded source fail in two
ways only (`Decision.Failure`): a condition has a key that is known neither to the context nor to
the library, or the text of a resource has a value that is no text. By inherited roles a decision
also fails where roles are reached by too many steps (`PolicySource.failure_of_load`).

What a decision may fail with is followed through its steps (`Decision.FailsOnly`), from the
conditions and resources of a statement on.
-/

namespace AccessPolicy

namespace Decision

/-! ### Errors of decisions -/

variable {α β : Type} {P : PolicyError → Prop}

/-- From whatever cache, every error of a decision has a property. -/
def FailsOnly (x : Decision α) (P : PolicyError → Prop) : Prop :=
  ∀ (cache : PatternCache) (e : PolicyError), (x cache).1.result = .error e → P e

theorem failsOnly_pure (a : α) : (pure a : Decision α).FailsOnly P := by
  intro cache e h
  cases h

theorem failsOnly_ofOutcome {x : Outcome PolicyError α} (h : ∀ e, x.result = .error e → P e) :
    (ofOutcome x).FailsOnly P :=
  fun _ e he => h e he

/-- The error of an expression is passed on. -/
theorem failsOnly_ofExpression {x : Outcome ExprError α}
    (h : ∀ e, x.result = .error e → P (.expression e)) : (ofExpression x).FailsOnly P := by
  refine failsOnly_ofOutcome fun e he => ?_
  change x.result.mapError _ = .error e at he
  cases hx : x.result with
  | error e' =>
    rw [hx] at he
    rw [← Except.error.inj he]
    exact h e' hx
  | ok a => rw [hx] at he; cases he

/-- Matching an action never fails. -/
theorem failsOnly_matchAction (action glob : String) : (matchAction action glob).FailsOnly P := by
  intro cache e h
  cases h

/-- Matching a resource never fails. -/
theorem failsOnly_matchResource (resource pattern : String) :
    (matchResource resource pattern).FailsOnly P := by
  intro cache e h
  cases h

theorem FailsOnly.mono {x : Decision α} {Q : PolicyError → Prop} (hx : x.FailsOnly P)
    (h : ∀ e, P e → Q e) : x.FailsOnly Q :=
  fun cache e he => h e (hx cache e he)

theorem FailsOnly.bind {x : Decision α} {f : α → Decision β} (hx : x.FailsOnly P)
    (hf : ∀ a, (f a).FailsOnly P) : (x >>= f).FailsOnly P := by
  intro cache e h
  rw [result_bind] at h
  cases hresult : (x cache).1.result with
  | error e' =>
    rw [hresult] at h
    rw [← Except.error.inj h]
    exact hx cache e' hresult
  | ok a =>
    rw [hresult] at h
    -- The second part starts with the patterns that the first one left in the cache.
    exact hf a _ e h

theorem FailsOnly.ite {x y : Decision α} (hx : x.FailsOnly P) (hy : y.FailsOnly P) (b : Prop)
    [Decidable b] : (if b then x else y).FailsOnly P := by
  split
  · exact hx
  · exact hy

section List

variable {f : α → Decision Bool} {l : List α}

/-- Looking for an element fails where one of the tests does. -/
theorem FailsOnly.anyM (hf : ∀ a ∈ l, (f a).FailsOnly P) : (l.anyM f).FailsOnly P := by
  induction l with
  | nil => exact failsOnly_pure false
  | cons a l ih =>
    obtain ⟨ha, hl⟩ := List.forall_mem_cons.1 hf
    refine ha.bind fun holds => ?_
    cases holds with
    | true => exact failsOnly_pure true
    | false => exact ih hl

theorem FailsOnly.filterAuxM (hf : ∀ a ∈ l, (f a).FailsOnly P) (kept : List α) :
    (l.filterAuxM f kept).FailsOnly P := by
  induction l generalizing kept with
  | nil => exact failsOnly_pure kept
  | cons a l ih =>
    obtain ⟨ha, hl⟩ := List.forall_mem_cons.1 hf
    exact ha.bind fun holds => ih hl _

/-- Filtering fails where one of the tests does. -/
theorem FailsOnly.filterM (hf : ∀ a ∈ l, (f a).FailsOnly P) : (l.filterM f).FailsOnly P :=
  (FailsOnly.filterAuxM hf []).bind fun kept => failsOnly_pure kept.reverse

/-- A fold fails where one of its steps does. -/
theorem FailsOnly.foldlM {f : β → α → Decision β} (hf : ∀ a ∈ l, ∀ b, (f b a).FailsOnly P)
    (b : β) : (l.foldlM f b).FailsOnly P := by
  induction l generalizing b with
  | nil => exact failsOnly_pure b
  | cons a l ih =>
    obtain ⟨ha, hl⟩ := List.forall_mem_cons.1 hf
    exact (ha b).bind fun b => ih hl b

end List

/-! ### What is left to fail -/

/-- How decisions about the sources of documents can fail for a request. -/
inductive Failure (library : Library) (policies roles : Value) (request : Request) :
    PolicyError → Prop
  /-- A condition document has a condition with a key that neither the context nor the library
  knows. -/
  | unknownKey {document : Value} {conditions : List Condition} {condition : Condition} {key : Key}
      (hdocument : document ∈ PolicySource.conditionDocuments policies roles)
      (hread : Condition.readDocument document = .ok conditions)
      (hcondition : condition ∈ conditions) (hkey : Key.read condition.key = .ok key)
      (hlocal : request.toContext.localHandler? key = none)
      (hlibrary : library.keys.find? key = none) :
      Failure library policies roles request (.expression (.keyNotFound key.toText))
  /-- The text of a resource has a value that is no text. -/
  | patternType {entry : String} {v : Value}
      (hentry : entry ∈ PolicySource.resourceEntries policies roles)
      (heval : (library.evalText request.toContext entry).result = .ok v)
      (htype : ∀ text, v ≠ .string text) :
      Failure library policies roles request (.patternType entry v.typeName)

end Decision

open Decision

/-! ### Conditions and resources -/

section Parts

variable {library : Library} {policies roles : Value} {request : Request}

/-- The operands of a condition always have values, so only its key can be missing. -/
theorem ReadyCondition.eval_eq_error {context : Context} {c : ReadyCondition} {e : ExprError}
    (h : (c.eval context).result = .error e) :
    context.localHandler? c.key = none ∧ c.handler = none ∧ e = .keyNotFound c.key.toText := by
  unfold ReadyCondition.eval at h
  split at h
  next hhandler =>
    obtain ⟨hlocal, hhandler⟩ := Option.or_eq_none_iff.1 hhandler
    exact ⟨hlocal, hhandler, (Except.error.inj h).symm⟩
  next handler hhandler =>
    rw [Outcome.result_bind, Outcome.result_mapM] at h
    cases hoperands : c.operands.mapM fun template => (Template.eval context template).result with
    | error e' =>
      -- An operand would have failed, but evaluating a template always has a value.
      obtain ⟨template, -, htemplate⟩ := exists_of_mapM_eq_error hoperands
      cases htemplate
    | ok operands => rw [hoperands] at h; cases h

/-- The conditions of a document fail only for an unknown key. -/
theorem Decision.failure_of_condition {document : Value} {condition : ConditionExpr}
    (hdocument : document ∈ PolicySource.conditionDocuments policies roles)
    (hread : library.readConditionDocument document = .ok condition) {e : ExprError}
    (h : (condition.eval request.toContext).result = .error e) :
    Failure library policies roles request (.expression e) := by
  obtain ⟨conditions, hconditions, hready⟩ := bind_eq_ok_iff.1 hread
  cases condition with
  | const value => cases h
  | all ready =>
    -- A list without conditions reads as the constant, so these were read one by one.
    have hmapM : conditions.mapM library.readCondition = .ok ready := by
      unfold Library.readConditions at hready
      split at hready
      · cases hready
      · cases hmap : conditions.mapM library.readCondition with
        | error e' => rw [hmap] at hready; cases hready
        | ok found =>
          rw [hmap] at hready
          cases hready
          rfl
    -- Some condition of the list fails, and it was read from one of the document.
    have hfails : ready.mapM (fun c => (c.eval request.toContext).result) = .error e := by
      rw [← Outcome.result_mapM]
      rw [ConditionExpr.eval, Outcome.result_bind] at h
      cases hresults : (ready.mapM (ReadyCondition.eval request.toContext)).result with
      | error e' => rw [hresults] at h; exact congrArg Except.error (Except.error.inj h)
      | ok results => rw [hresults] at h; cases h
    obtain ⟨c, hc, hce⟩ := exists_of_mapM_eq_error hfails
    obtain ⟨condition, hcondition, hcread⟩ := exists_of_mem_mapM hmapM hc
    obtain ⟨hlocal, hhandler, rfl⟩ := ReadyCondition.eval_eq_error hce
    have hresolves := Library.readCondition_eq_ok_iff.1 hcread
    exact .unknownKey hdocument hconditions hcondition hresolves.key_eq hlocal
      (hresolves.handler_eq.symm.trans hhandler)

/-- A resource of a document fails only if its value is no text. -/
theorem ResourcePattern.failsOnly_accepts {pattern : ResourcePattern}
    (hentry : pattern.source ∈ PolicySource.resourceEntries policies roles)
    (hread : library.readTemplate pattern.source = .ok pattern.template) (resource : String) :
    (pattern.accepts request.toContext resource).FailsOnly
      (Failure library policies roles request) := by
  have heval : (library.evalText request.toContext pattern.source).result =
      .ok (pattern.template.run request.toContext).1 := by
    rw [Library.evalText_of_ok hread]
  intro cache e h
  -- Evaluating the template has a value, so only the type of this value can make it fail.
  generalize hv : (pattern.template.run request.toContext).1 = v at heval
  have hvalue : (ofExpression (pattern.template.eval request.toContext) cache).1.result = .ok v :=
    congrArg Except.ok hv
  rw [accepts, result_bind, hvalue] at h
  cases v with
  | string text => exact failsOnly_matchResource resource text _ e h
  | _ =>
    rw [← Except.error.inj h]
    exact .patternType hentry heval (by simp)

/-! ### Statements -/

variable {doc : StatementDocument} {s : Statement}
  (hdoc : doc ∈ PolicySource.statementDocuments policies roles) (hs : s.ReadFrom library doc)

include hdoc hs

namespace Statement

theorem failsOnly_matchesResource (resource : Option String) :
    (s.matchesResource request.toContext resource).FailsOnly
      (Failure library policies roles request) := by
  cases resource with
  | none => exact failsOnly_pure _
  | some resource =>
    refine FailsOnly.anyM fun pattern hpattern => ?_
    obtain ⟨hentry, hread⟩ := hs.resource pattern hpattern
    exact pattern.failsOnly_accepts (List.mem_flatMap.2 ⟨doc, hdoc, hentry⟩) hread resource

theorem failsOnly_holds :
    (s.holds request.toContext).FailsOnly (Failure library policies roles request) := by
  refine failsOnly_ofExpression fun e he => ?_
  have hcondition : doc.condition ∈ PolicySource.conditionDocuments policies roles :=
    List.mem_append_left _ (List.mem_map.2 ⟨doc, hdoc, rfl⟩)
  exact failure_of_condition hcondition hs.condition he

/-- Whether a statement applies fails only for its resources and its condition. -/
theorem failsOnly_applies (resource : Option String) :
    (s.applies request.toContext resource).FailsOnly
      (Failure library policies roles request) := by
  refine (failsOnly_matchesResource hdoc hs resource).bind fun concerns => ?_
  exact (failsOnly_holds hdoc hs).ite (failsOnly_pure false) _

end Statement

end Parts

/-! ### Engines -/

section Engines

variable {library : Library} {policies roles : Value} {source : PolicySource} {config : Config}
  {request : Request}

variable (hsource : source.ReadFrom library policies roles)

include hsource

/-- The statements of the policies of some roles come from documents. -/
theorem PolicySource.ReadFrom.exists_document {ids : List String} {s : Statement}
    (h : s ∈ (distinctPolicies (ids.flatMap source.policiesOfRole)).flatMap (·.statements)) :
    ∃ doc ∈ statementDocuments policies roles, s.ReadFrom library doc := by
  obtain ⟨policy, hpolicy, hs⟩ := List.mem_flatMap.1 h
  obtain ⟨id, -, hid⟩ := List.mem_flatMap.1 ((eraseDupsBy_key Policy.id _).1 policy hpolicy)
  exact hsource.policy hid s hs

namespace DenyOverrides

/-- Where denials win, deciding about an action fails only for a statement. -/
theorem failsOnly_check (action : String) :
    ((⟨source, config⟩ : DenyOverrides).check request action).FailsOnly
      (Failure library policies roles request) := by
  refine FailsOnly.bind (FailsOnly.foldlM (fun s hs tally => ?_) _) fun tally => ?_
  · obtain ⟨doc, hdoc, hread⟩ := hsource.exists_document hs
    have hcovers : (s.matchesAction action).FailsOnly (Failure library policies roles request) :=
      FailsOnly.anyM fun glob _ => failsOnly_matchAction action glob
    refine hcovers.bind fun covers => FailsOnly.ite ?_ (failsOnly_pure tally) _
    refine (Statement.failsOnly_matchesResource hdoc hread _).bind fun concerns => ?_
    refine FailsOnly.ite ?_ (failsOnly_pure tally) _
    exact (Statement.failsOnly_holds hdoc hread).bind fun holds => failsOnly_pure _
  · -- A denial is logged, which never fails.
    refine FailsOnly.ite ?_ (failsOnly_pure _) _
    exact (failsOnly_ofOutcome fun e he => by cases he).bind fun _ => failsOnly_pure _

theorem failsOnly_isAllowed (action : String) :
    ((⟨source, config⟩ : DenyOverrides).isAllowed request action).FailsOnly
      (Failure library policies roles request) :=
  (failsOnly_check hsource action).bind fun _ => failsOnly_pure _

/-- Where denials win, listing fails only for a statement. -/
theorem failsOnly_allowedActions :
    ((⟨source, config⟩ : DenyOverrides).allowedActions request).FailsOnly
      (Failure library policies roles request) := by
  refine (FailsOnly.filterM fun s hs => ?_).bind fun applying => failsOnly_pure _
  obtain ⟨doc, hdoc, hread⟩ := hsource.exists_document hs
  exact (Statement.failsOnly_applies hdoc hread _).bind fun applies => failsOnly_pure _

end DenyOverrides

namespace RoleGrants

omit hsource in
/-- Roles fail to expand only where one of them is too many steps away. -/
theorem exists_of_expandRoles_eq_error {engine : RoleGrants} {e : PolicyError}
    (h : engine.expandRoles request = .error e) :
    ∃ role, e = .depthExceeded role engine.graph.maxDepth := by
  cases hids : engine.graph.expandAll (request.roles engine.config.implicitRole) with
  | error e' =>
    rw [expandRoles, hids] at h
    rw [← Except.error.inj h]
    exact RoleGraph.visit_error (RoleGraph.expandAll_eq_error_iff.1 hids)
  | ok ids =>
    rw [expandRoles, hids] at h
    cases h

/-- By inherited roles, listing fails for the condition of a role, for a statement, or because
roles are too many steps away. -/
theorem failsOnly_allowedActions :
    ((⟨source, ⟨source.rolesByName, config.maxRoleDepth⟩, config⟩ : RoleGrants).allowedActions
      request).FailsOnly fun e => Failure library policies roles request e ∨
        ∃ role, e = .depthExceeded role config.maxRoleDepth := by
  refine (failsOnly_ofOutcome fun e he => ?_).bind fun ids => ?_
  · exact .inr (exists_of_expandRoles_eq_error he)
  refine (FailsOnly.filterM fun id _ => ?_).bind fun effective => ?_
  · -- Unknown roles have no condition to fail.
    unfold inEffect
    split
    next role found =>
      obtain ⟨document, hdocument, hread⟩ :=
        hsource.condition (source.mem_of_get? found)
      exact failsOnly_ofExpression fun e he => .inl (failure_of_condition hdocument hread he)
    next => exact failsOnly_pure true
  refine (FailsOnly.filterM fun s hs => ?_).bind fun applying => failsOnly_pure _
  have hdocument : ∃ doc ∈ PolicySource.statementDocuments policies roles,
      s.ReadFrom library doc := by
    -- A statement is one of a policy or one of a role itself.
    rcases List.mem_append.1 hs with hs | hs
    · exact hsource.exists_document hs
    · obtain ⟨role, hmem, hs⟩ := List.mem_flatMap.1 hs
      obtain ⟨id, -, found⟩ := List.mem_filterMap.1 hmem
      exact hsource.role (source.mem_of_get? found) s hs
  obtain ⟨doc, hdoc, hread⟩ := hdocument
  refine FailsOnly.ite ?_ (failsOnly_pure false) _
  exact (Statement.failsOnly_applies hdoc hread _).mono fun e he => .inl he

theorem failsOnly_isAllowed (action : String) :
    ((⟨source, ⟨source.rolesByName, config.maxRoleDepth⟩, config⟩ : RoleGrants).isAllowed request
      action).FailsOnly fun e => Failure library policies roles request e ∨
        ∃ role, e = .depthExceeded role config.maxRoleDepth :=
  (failsOnly_allowedActions hsource).bind fun _ => failsOnly_pure _

end RoleGrants

end Engines

namespace PolicySource

/-- A source that was loaded from documents, by an engine that was used in any way before, makes
decisions that fail in few ways only, under every configuration, for every request and whatever
patterns are cached. Where denials win, a decision fails because a condition of the documents has
a key that neither the context nor the library knows, or because a resource entry has a value that
is no text. By inherited roles, it may also fail because a role is more steps away than the
configuration allows. -/
theorem failure_of_load {library : Library} {capacity : Nat} {calls : List Engine.Call}
    {policies roles : Value} {source : PolicySource}
    (loaded : load (({ toLibrary := library, capacity } : Engine).after calls) policies roles =
      .ok source) (config : Config) (request : Request) :
    (∀ engine, DenyOverrides.ofSource source config = .ok engine →
      (∀ action, (engine.check request action).FailsOnly
        (Failure library policies roles request)) ∧
      (∀ action, (engine.isAllowed request action).FailsOnly
        (Failure library policies roles request)) ∧
      (engine.allowedActions request).FailsOnly (Failure library policies roles request)) ∧
    ∀ engine, RoleGrants.ofSource source config = .ok engine →
      (∀ action, (engine.isAllowed request action).FailsOnly fun e =>
        Failure library policies roles request e ∨
          ∃ role, e = .depthExceeded role config.maxRoleDepth) ∧
      (engine.allowedActions request).FailsOnly fun e =>
        Failure library policies roles request e ∨
          ∃ role, e = .depthExceeded role config.maxRoleDepth := by
  have hsource := readFrom_of_load loaded
  refine ⟨fun engine built => ?_, fun engine built => ?_⟩
  · rw [DenyOverrides.eq_of_ofSource built]
    exact ⟨fun action => DenyOverrides.failsOnly_check hsource action,
      fun action => DenyOverrides.failsOnly_isAllowed hsource action,
      DenyOverrides.failsOnly_allowedActions hsource⟩
  · rw [RoleGrants.eq_of_ofSource built]
    exact ⟨fun action => RoleGrants.failsOnly_isAllowed hsource action,
      RoleGrants.failsOnly_allowedActions hsource⟩

/-- Documents that load, and decisions about them that fail: with the unknown key of a condition,
with a resource entry whose value is a list, and with a role that is two steps away where one is
allowed. -/
theorem failure_of_load_reports :
    let library : Library := ⟨⟨.ofHandlers [(⟨"user", "homes"⟩, .const (.array []))], .chain []⟩,
      .ofEntries [("Is", fun _ _ => true)], .chain []⟩
    let reading : Value := .object [("effect", .string "Allow"),
      ("actions", .array [.string "report:Get"]),
      ("condition", .object [("Is", .object [("session:level", .string "${user:homes}")])])]
    let writing : Value := .object [("effect", .string "Deny"),
      ("actions", .array [.string "report:Put"]), ("resource", .string "${user:homes}")]
    let policies : Value :=
      .array [.object [("id", .string "reports"), ("statements", .array [reading, writing])]]
    let roles : Value := .array [
      .object [("id", .string "staff"), ("policies", .array [.string "reports"]),
        ("inherits", .array [.string "guest"])],
      .object [("id", .string "guest"), ("inherits", .array [.string "visitor"])]]
    let request : Request := { Moment.epoch with claims := { roles := ["staff"] } }
    let about : Request := { request with resource := some "home" }
    ∃ source, load (({ toLibrary := library } : Engine).after []) policies roles = .ok source ∧
      DenyOverrides.ofSource source {} = .ok ⟨source, {}⟩ ∧
      ((⟨source, {}⟩ : DenyOverrides).check request "report:Get" {}).1.result =
        .error (.expression (.keyNotFound "session:level")) ∧
      Failure library policies roles request (.expression (.keyNotFound "session:level")) ∧
      ((⟨source, {}⟩ : DenyOverrides).check about "report:Put" {}).1.result =
        .error (.patternType "${user:homes}" "array") ∧
      Failure library policies roles about (.patternType "${user:homes}" "array") ∧
      ∃ engine, RoleGrants.ofSource source { maxRoleDepth := 1 } = .ok engine ∧
        (engine.allowedActions request {}).1.result = .error (.depthExceeded "visitor" 1) ∧
        (Failure library policies roles request (.depthExceeded "visitor" 1) ∨
          ∃ role, PolicyError.depthExceeded "visitor" 1 = .depthExceeded role 1) := by
  intro library reading writing policies roles request about
  let loading := load (({ toLibrary := library } : Engine).after []) policies roles
  have hloads : loading.isOk = true := by decide +kernel
  have hkey : (loading >>= fun source =>
      ((⟨source, {}⟩ : DenyOverrides).check request "report:Get" {}).1.result) =
        .error (.expression (.keyNotFound "session:level")) := by
    decide +kernel
  have htype : (loading >>= fun source =>
      ((⟨source, {}⟩ : DenyOverrides).check about "report:Put" {}).1.result) =
        .error (.patternType "${user:homes}" "array") := by
    decide +kernel
  have hinherits : (loading.map fun source => (Entries.keys source.rolesByName,
      ["staff", "guest"].map (RoleGraph.parents source.rolesByName))) =
        .ok (["staff", "guest"], [["guest"], ["visitor"]]) := by
    decide +kernel
  -- The source is not written out: only what was found about it above is used below.
  cases loaded : loading with
  | error e => rw [loaded] at hloads; cases hloads
  | ok source =>
    rw [loaded] at hkey htype hinherits
    simp only [bind, Except.bind] at hkey htype
    obtain ⟨hkeys, hparents⟩ := Prod.mk.inj (Except.ok.inj hinherits)
    obtain ⟨hstaff, hguest⟩ : RoleGraph.parents source.rolesByName "staff" = ["guest"] ∧
        RoleGraph.parents source.rolesByName "guest" = ["visitor"] := by
      simpa using hparents
    let engine : RoleGrants := ⟨source, ⟨source.rolesByName, 1⟩, { maxRoleDepth := 1 }⟩
    have hgraph : RoleGraph.ofRoles source.rolesByName 1 = .ok engine.graph := by
      simp [RoleGraph.ofRoles_eq_findCycle, RoleGraph.findCycle, hkeys, hstaff, hguest, engine]
    have built : RoleGrants.ofSource source { maxRoleDepth := 1 } = .ok engine :=
      bind_eq_ok_iff.2 ⟨(), rfl, bind_eq_ok_iff.2 ⟨engine.graph, hgraph, rfl⟩⟩
    have hvisit : engine.graph.visit 0 [] ["staff", "anonymous"] =
        .error (.depthExceeded "visitor" 1) := by
      simp [RoleGraph.visit, engine, hstaff, hguest]
    have hexpand : engine.expandRoles request = .error (.depthExceeded "visitor" 1) := by
      have hroles : request.roles engine.config.implicitRole = ["staff", "anonymous"] := rfl
      rw [RoleGrants.expandRoles, hroles, RoleGraph.expandAll_eq_error_iff.2 hvisit]
      rfl
    have hlisted : (engine.allowedActions request {}).1.result =
        .error (.depthExceeded "visitor" 1) := by
      rw [RoleGrants.allowedActions, hexpand]
      rfl
    obtain ⟨hdeny, -⟩ := failure_of_load loaded {} request
    obtain ⟨hdenyAbout, -⟩ := failure_of_load loaded {} about
    obtain ⟨-, hgrants⟩ := failure_of_load loaded { maxRoleDepth := 1 } request
    exact ⟨source, loaded, rfl, hkey, (hdeny _ rfl).1 _ _ _ hkey, htype,
      (hdenyAbout _ rfl).1 _ _ _ htype, engine, built, hlisted, (hgrants _ built).2 _ _ hlisted⟩

end PolicySource

end AccessPolicy
