import AccessPolicy.Proofs.Decision.DenyOverrides
import AccessPolicy.Proofs.Pattern.Glob
import AccessPolicy.Proofs.Pattern.Wildcard

/-!
# Denying everything

A statement that denies the action `*` on the resource `*` without a condition, in a policy of the
role that everybody has, is meant to lock everything down (`DenyOverrides.LockedDown`). The star
matches every text without a line feed but no other one, so this works exactly for the actions and
resources without line feeds; any other action or resource can get around the lockdown by a
statement that allows it (`DenyOverrides.check_beside_lockdown`).
-/

namespace AccessPolicy

open Decision Pattern

/-! ### Literal patterns -/

/-- A literal pattern is matched as it is written. -/
theorem ResourcePattern.answer_accepts_literal (context : Context) (resource pattern : String) :
    ((literal pattern).accepts context resource).answer =
      .ok (matchesText (wildcard? pattern) resource) :=
  answer_matchResource resource pattern

namespace Statement

variable {s : Statement} {request : Request} {patterns : List String}

/-- The resource test of a statement whose patterns are literal. It never fails. -/
theorem answer_matchesResource_literal (h : s.resource = patterns.map ResourcePattern.literal)
    (context : Context) (resource : Option String) :
    (s.matchesResource context resource).answer = .ok (match resource with
      | none => patterns.isEmpty || patterns.any (· == "*")
      | some text => patterns.any fun pattern => matchesText (wildcard? pattern) text) := by
  cases resource with
  | none =>
    rw [matchesResource, h, answer_pure, List.isEmpty_map, List.any_map]
    rfl
  | some text =>
    have haccepts : ∀ pattern ∈ s.resource, (pattern.accepts context text).answer =
        .ok (matchesText (wildcard? pattern.source) text) := by
      intro pattern hpattern
      rw [h] at hpattern
      obtain ⟨source, -, rfl⟩ := List.mem_map.1 hpattern
      exact ResourcePattern.answer_accepts_literal context text source
    rw [matchesResource, answer_anyM (ResourcePattern.cacheBlind_accepts context text),
      anyM_of_ok haccepts, h, List.any_map]
    rfl

/-- A statement with literal patterns and no condition never fails. -/
theorem not_fails_of_literal (h : s.resource = patterns.map ResourcePattern.literal)
    (hcondition : s.condition = .const true) : ¬s.Fails request := by
  rintro (⟨e, he⟩ | ⟨-, e, he⟩)
  · rw [answer_matchesResource_literal h] at he
    cases he
  · rw [holds, hcondition] at he
    cases he

/-- It passes where it concerns the request. -/
theorem passes_iff_of_const (hcondition : s.condition = .const true) :
    s.Passes request ↔ s.Concerns request := by
  rw [Passes, holds, hcondition]
  exact and_iff_left rfl

/-! ### Statements that deny everything -/

/-- The statement denies the action `*` on the resource `*`, without a condition. -/
structure IsLockdown (s : Statement) : Prop where
  effect : s.effect = .deny
  actions : s.actions = ["*"]
  resource : s.resource = [ResourcePattern.literal "*"]
  condition : s.condition = .const true

theorem IsLockdown.covers_iff (h : s.IsLockdown) {action : String} :
    s.Covers action ↔ '\n' ∉ action.toList := by
  simp only [Statement.covers_iff, h.actions, List.mem_singleton, exists_eq_left,
    matchesText_star_iff]

theorem IsLockdown.passes_iff (h : s.IsLockdown) :
    s.Passes request ↔ ∀ text, request.resource? = some text → '\n' ∉ text.toList := by
  have hresource : s.resource = ["*"].map ResourcePattern.literal := h.resource
  rw [passes_iff_of_const h.condition, Concerns, answer_matchesResource_literal hresource]
  cases request.resource? with
  | none => simp
  | some text =>
    simpa [matchesText_wildcard_iff] using fits_star_iff

/-- The plainest statement of this kind. -/
def lockdown : Statement where
  effect := .deny
  actions := ["*"]
  resource := [ResourcePattern.literal "*"]

theorem isLockdown_lockdown : lockdown.IsLockdown :=
  ⟨rfl, rfl, rfl, rfl⟩

/-- A statement that allows every action on a resource, or without one. -/
def allowAll (resource : Option String) : Statement where
  effect := .allow
  actions := ["(?s:*)"]
  resource := resource.toList.map ResourcePattern.literal

theorem covers_allowAll (resource : Option String) (action : String) :
    (allowAll resource).Covers action :=
  covers_iff.2 ⟨"(?s:*)", List.mem_singleton_self _, matchesText_flaggedStar action⟩

/-- The resource is a pattern that fits itself. -/
theorem passes_allowAll : (allowAll request.resource?).Passes request := by
  have hresource : (allowAll request.resource?).resource =
      request.resource?.toList.map ResourcePattern.literal := rfl
  rw [passes_iff_of_const rfl, Concerns, answer_matchesResource_literal hresource]
  cases request.resource? with
  | none => rfl
  | some text =>
    have hself : matchesText (wildcard? text) text = true :=
      matchesText_wildcard_iff.2 (fits_self text.toList)
    simp [hself]

end Statement

namespace DenyOverrides

variable {policies : List Policy} {roles : List Role} {config : Config} {engine : DenyOverrides}
  {request : Request} {action : String}

/-- A policy of the role that everybody has holds a statement that denies everything. -/
def LockedDown (policies : List Policy) (roles : List Role) (config : Config) : Prop :=
  ∃ policy, PolicySource.RefersTo policies roles config.implicitRole policy ∧
    ∃ s ∈ policy.statements, s.IsLockdown

/-- A policy that the source has for a role holds a statement that denies everything. -/
def LockedDownBy (source : PolicySource) (role : String) : Prop :=
  ∃ policy ∈ source.policiesOfRole role, ∃ s ∈ policy.statements, s.IsLockdown

/-- Where a name stands for one policy only, a decision considers all statements of the policies of
its roles. -/
theorem mem_statements_of_namesOnce (hnames : engine.source.NamesOnce) {id : String}
    (hid : id ∈ request.roles engine.config.implicitRole) {policy : Policy}
    (hpolicy : policy ∈ engine.source.policiesOfRole id) {s : Statement}
    (hs : s ∈ policy.statements) : s ∈ engine.statements request := by
  refine List.mem_flatMap.2 ⟨policy, (mem_distinctPolicies fun p hp q hq => ?_).2 ?_, hs⟩
  · obtain ⟨a, -, ha⟩ := List.mem_flatMap.1 hp
    obtain ⟨b, -, hb⟩ := List.mem_flatMap.1 hq
    exact hnames p ha q hb
  · exact List.mem_flatMap.2 ⟨id, hid, hpolicy⟩

/-- A statement that denies the action on the request settles the decision. -/
theorem not_allowed_of_denied {check : ActionCheck} {s : Statement}
    (h : (engine.check request action).answer = .ok check) (hs : s ∈ engine.statements request)
    (heffect : s.effect = .deny) (hcovers : s.Covers action) (hpasses : s.Passes request) :
    check.allowed = false := by
  have hdenying : 0 < (Tally.ofStatements request action (engine.statements request)).denying :=
    List.countP_pos_iff.2 ⟨s, hs, by simp [heffect, hcovers, hpasses]⟩
  rw [eq_of_answer_check h]
  simp [Tally.toCheck, Nat.ne_of_gt hdenying]

/-! ### A statement beside the lockdown -/

section Beside

variable (allowing : Statement)

/-- A request of nobody in particular. -/
def anonymously (resource : Option String) : Request :=
  { Moment.epoch with resource }

/-- A lockdown and another statement. -/
def policiesBeside : List Policy :=
  [⟨"lockdown", "", [Statement.lockdown]⟩, ⟨"grants", "", [allowing]⟩]

/-- The role that everybody has, with a lockdown and more. -/
def everybody : Role where
  id := "anonymous"
  label := ""
  policies := ["lockdown", "grants"]

/-- The decisions of a lockdown and another statement that concern everybody. -/
def besideLockdown : DenyOverrides where
  source := .ofLists (policiesBeside allowing) [everybody]
  config := {}

theorem ofSource_besideLockdown :
    ofSource (.ofLists (policiesBeside allowing) [everybody]) {} = .ok (besideLockdown allowing) :=
  rfl

theorem lockedDown_besideLockdown : LockedDown (policiesBeside allowing) [everybody] {} :=
  ⟨⟨"lockdown", "", [Statement.lockdown]⟩, ⟨everybody, rfl, "lockdown", List.mem_cons_self, rfl⟩,
    Statement.lockdown, List.mem_cons_self, Statement.isLockdown_lockdown⟩

theorem statements_besideLockdown (resource : Option String) :
    (besideLockdown allowing).statements (anonymously resource) = [Statement.lockdown, allowing] :=
  rfl

end Beside

/-- If the lockdown does not deny an action on a resource, another statement may allow it. -/
theorem check_beside_lockdown {resource : Option String} (h : ¬(Statement.lockdown.Covers action ∧
      Statement.lockdown.Passes (anonymously resource))) :
    ((besideLockdown (.allowAll (anonymously resource).resource?)).check (anonymously resource)
      action).answer = .ok ⟨true, 1, 1, 0⟩ := by
  let request := anonymously resource
  let allowing := Statement.allowAll request.resource?
  have hstatements : (besideLockdown allowing).statements request =
      [Statement.lockdown, allowing] := statements_besideLockdown allowing resource
  cases hcheck : ((besideLockdown allowing).check request action).answer with
  | error e =>
    obtain ⟨s, hs, -, hfails⟩ :=
      (answer_check_error_iff (besideLockdown allowing) request action).1 ⟨e, hcheck⟩
    -- Neither statement can fail: their patterns are literal, and they have no conditions.
    rw [hstatements] at hs
    rcases List.mem_cons.1 hs with rfl | hs
    · have hresource : Statement.lockdown.resource = ["*"].map ResourcePattern.literal := rfl
      exact absurd hfails (Statement.not_fails_of_literal hresource rfl)
    · rw [List.mem_singleton.1 hs] at hfails
      have hresource : allowing.resource = request.resource?.toList.map ResourcePattern.literal :=
        rfl
      exact absurd hfails (Statement.not_fails_of_literal hresource rfl)
  | ok check =>
    have hcovers : allowing.Covers action := Statement.covers_allowAll _ action
    have hpasses : allowing.Passes request := Statement.passes_allowAll
    have hdenied : ¬(Statement.lockdown.Covers action ∧ Statement.lockdown.Passes request) := h
    -- As the lockdown has no condition, it is not even counted as matching.
    have hconcerned : ¬(Statement.lockdown.Covers action ∧
        Statement.lockdown.Concerns request) := by
      rwa [← Statement.passes_iff_of_const (s := Statement.lockdown) rfl]
    rw [eq_of_answer_check hcheck, hstatements]
    simp [Tally.toCheck, Tally.ofStatements, hcovers, hpasses, hpasses.1, hdenied, hconcerned,
      show Statement.lockdown.effect = .deny from rfl, show allowing.effect = .allow from rfl]

/-- A lockdown holds exactly for the actions without line feeds on resources without line feeds,
where a resource without text but white space counts as none. Whatever else a source contains,
nothing of the kind is allowed then. This is so for sources of any kind in which a name stands for
one policy only. -/
theorem lockdown_iff (action : String) (resource : Option String) :
    let clear : Prop := '\n' ∉ action.toList ∧
      ∀ text, resource = some text → Text.allBlank text = false → '\n' ∉ text.toList
    ((∀ {policies roles config engine request cache check},
      ofSource (.ofLists policies roles) config = .ok engine → cache.Faithful →
      LockedDown policies roles config → request.resource = resource →
      (engine.check request action cache).1.result = .ok check → check.allowed = false) ↔
        clear) ∧
    (clear → ∀ {source config engine request cache check},
      ofSource source config = .ok engine → cache.Faithful → source.NamesOnce →
      LockedDownBy source config.implicitRole → request.resource = resource →
      (engine.check request action cache).1.result = .ok check → check.allowed = false) := by
  intro clear
  have hresource {request : Request} (hrequest : request.resource = resource) (text : String) :
      request.resource? = some text ↔ resource = some text ∧ Text.allBlank text = false := by
    rw [Request.resource?, hrequest, Option.filter_eq_some_iff]
    simp
  have hclear : clear → ∀ {source config engine request cache check},
      ofSource source config = .ok engine → cache.Faithful → source.NamesOnce →
      LockedDownBy source config.implicitRole → request.resource = resource →
      (engine.check request action cache).1.result = .ok check → check.allowed = false := by
    rintro ⟨haction, htext⟩ source config engine request cache check built hcache hnames
      ⟨policy, hpolicy, s, hs, hlockdown⟩ hrequest hcheck
    obtain rfl := eq_of_ofSource built
    rw [(cacheBlind_check _ request action).result_eq hcache] at hcheck
    have hmem : s ∈ (⟨source, config⟩ : DenyOverrides).statements request :=
      mem_statements_of_namesOnce hnames (Request.mem_roles.2 (.inr rfl)) hpolicy hs
    refine not_allowed_of_denied hcheck hmem hlockdown.effect (hlockdown.covers_iff.2 haction)
      (hlockdown.passes_iff.2 fun text hsome => ?_)
    exact htext text ((hresource hrequest text).1 hsome).1 ((hresource hrequest text).1 hsome).2
  refine ⟨⟨?_, ?_⟩, hclear⟩
  · intro hlocked
    -- Otherwise the lockdown could stand beside a statement that allows the action.
    have hdenied : Statement.lockdown.Covers action ∧
        Statement.lockdown.Passes (anonymously resource) := by
      by_contra hopen
      have hallowed := hlocked (ofSource_besideLockdown _) PatternCache.faithful_empty
        (lockedDown_besideLockdown _) rfl (check_beside_lockdown hopen)
      cases hallowed
    obtain ⟨hcovers, hpasses⟩ := hdenied
    refine ⟨Statement.isLockdown_lockdown.covers_iff.1 hcovers, fun text htext hblank => ?_⟩
    exact Statement.isLockdown_lockdown.passes_iff.1 hpasses text
      ((hresource rfl text).2 ⟨htext, hblank⟩)
  · rintro hfree policies roles config engine request cache check built hcache
      ⟨policy, hrefers, hlockdown⟩
    exact hclear hfree built hcache PolicySource.namesOnce_ofLists
      ⟨policy, PolicySource.mem_policiesOfRole_ofLists.2 hrefers, hlockdown⟩

/-- An action with a line feed gets around a lockdown. -/
theorem lockdown_bypassed :
    let report : Statement :=
      { effect := .allow, actions := ["report:List\nAll"], resource := [.literal "*"] }
    ofSource (.ofLists (policiesBeside report) [everybody]) {} = .ok (besideLockdown report) ∧
      LockedDown (policiesBeside report) [everybody] {} ∧
      ((besideLockdown report).check (anonymously none) "report:List\nAll" {}).1.result =
        .ok ⟨true, 1, 1, 0⟩ :=
  ⟨ofSource_besideLockdown _, lockedDown_besideLockdown _, by decide +kernel⟩

end DenyOverrides

end AccessPolicy
