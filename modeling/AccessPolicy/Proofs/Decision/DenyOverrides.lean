import AccessPolicy.Decision.DenyOverrides
import AccessPolicy.Proofs.Decision.Distinct
import AccessPolicy.Proofs.Decision.Matching
import Mathlib.Algebra.BigOperators.Finprod

/-!
# Decisions where denials win

A decision fails exactly where a statement that covers the action fails for the request; any
other decision is what the statements of the caller's policies add up to (`Tally.ofStatements`).
The count goes statement by statement (`DenyOverrides.answer_count_of_not_fails`) and then through
a list of them. Over a source that was made of lists, these are the statements of the policies
that the caller's roles refer to, so the decision can be stated in terms of a set of policies
(`DenyOverrides.Decides`).
-/

namespace AccessPolicy

open Decision

namespace Tally

instance : Add Tally :=
  ⟨fun a b => ⟨a.matching + b.matching, a.allowing + b.allowing, a.denying + b.denying⟩⟩

/-- What some statements add up to: those that cover the action and concern the request, and
those of them whose condition holds, by their effect. -/
def ofStatements (request : Request) (action : String) (statements : List Statement) : Tally where
  matching := statements.countP fun s => s.Covers action ∧ s.Concerns request
  allowing := statements.countP fun s => s.effect = .allow ∧ s.Covers action ∧ s.Passes request
  denying := statements.countP fun s => s.effect = .deny ∧ s.Covers action ∧ s.Passes request

variable {request : Request} {action : String}

theorem add_def (a b : Tally) :
    a + b = ⟨a.matching + b.matching, a.allowing + b.allowing, a.denying + b.denying⟩ := rfl

theorem add_ofStatements_cons (tally : Tally) (s : Statement) (l : List Statement) :
    tally + ofStatements request action (s :: l) =
      tally + ofStatements request action [s] + ofStatements request action l := by
  simp only [add_def, ofStatements, List.countP_cons, List.countP_nil, Tally.mk.injEq]
  omega

end Tally

namespace DenyOverrides

variable {request : Request} {action : String}

/-! ### Counting one statement -/

section Count

variable (context : Context) (resource : Option String) (action : String) (tally : Tally)
  (s : Statement)

theorem cacheBlind_add_holds :
    (do return tally.add s.effect (← s.holds context) : Decision Tally).CacheBlind :=
  (s.cacheBlind_holds context).bind fun _ => cacheBlind_pure _

theorem cacheBlind_count_covered :
    (do
      if ← s.matchesResource context resource then
        return tally.add s.effect (← s.holds context)
      else return tally : Decision Tally).CacheBlind :=
  (s.cacheBlind_matchesResource context resource).bind
    (CacheBlind.ite (cacheBlind_add_holds context tally s) (cacheBlind_pure tally))

theorem cacheBlind_count : (count context resource action tally s).CacheBlind :=
  (s.cacheBlind_matchesAction action).bind
    (CacheBlind.ite (cacheBlind_count_covered context resource tally s) (cacheBlind_pure tally))

/-- The answer of counting a statement, in terms of its tests. -/
theorem answer_count :
    (count context resource action tally s).answer = do
      if ← (s.matchesAction action).answer then
        if ← (s.matchesResource context resource).answer then
          return tally.add s.effect (← (s.holds context).answer)
        else return tally
      else return tally := by
  refine (answer_bind (s.cacheBlind_matchesAction action) (CacheBlind.ite
    (cacheBlind_count_covered context resource tally s) (cacheBlind_pure tally))).trans ?_
  refine bind_congr fun covers => ?_
  cases covers with
  | false => rfl
  | true =>
    refine (answer_bind (s.cacheBlind_matchesResource context resource)
      (CacheBlind.ite (cacheBlind_add_holds context tally s) (cacheBlind_pure tally))).trans ?_
    refine bind_congr fun concerns => ?_
    cases concerns with
    | false => rfl
    | true => exact answer_bind (s.cacheBlind_holds context) fun _ => cacheBlind_pure _

end Count

/-- A statement that covers the action and fails for the request ends the count. -/
theorem answer_count_of_fails {s : Statement} (tally : Tally) (hcovers : s.Covers action)
    (hfails : s.Fails request) :
    ∃ e, (count request.toContext request.resource? action tally s).answer = .error e := by
  rw [answer_count, show (s.matchesAction action).answer = .ok true from hcovers]
  rcases hfails with ⟨e, he⟩ | ⟨hconcerns, e, he⟩
  · exact ⟨e, by rw [he]; rfl⟩
  · rw [show (s.matchesResource request.toContext request.resource?).answer = .ok true from
      hconcerns]
    exact ⟨e, by rw [he]; rfl⟩

/-- Any other statement is added to the count. -/
theorem answer_count_of_not_fails {s : Statement} (tally : Tally)
    (h : ¬(s.Covers action ∧ s.Fails request)) :
    (count request.toContext request.resource? action tally s).answer =
      .ok (tally + Tally.ofStatements request action [s]) := by
  rw [answer_count]
  -- The three tests are made in order, and what the tally gains depends on how far they go.
  by_cases hcovers : s.Covers action
  · have hfails : ¬s.Fails request := fun hfails => h ⟨hcovers, hfails⟩
    rw [show (s.matchesAction action).answer = .ok true from hcovers]
    by_cases hconcerns : s.Concerns request
    · rw [show (s.matchesResource request.toContext request.resource?).answer = .ok true from
        hconcerns]
      by_cases hpasses : s.Passes request
      · rw [show (s.holds request.toContext).answer = .ok true from hpasses.2]
        refine congrArg Except.ok ?_
        cases heffect : s.effect <;>
          simp [Tally.add, Tally.add_def, Tally.ofStatements, hcovers, hconcerns, hpasses, heffect]
      · rw [Statement.answer_of_not_passes hfails hconcerns hpasses]
        refine congrArg Except.ok ?_
        simp [Tally.add, Tally.add_def, Tally.ofStatements, hcovers, hconcerns, hpasses]
    · rw [Statement.answer_of_not_concerns hfails hconcerns]
      refine congrArg Except.ok ?_
      simp [Tally.add_def, Tally.ofStatements, hconcerns, Statement.Passes]
  · rw [Statement.answer_of_not_covers hcovers]
    refine congrArg Except.ok ?_
    simp [Tally.add_def, Tally.ofStatements, hcovers]

/-! ### Counting a list of statements -/

/-- Counting fails where a statement covers the action and fails for the request. -/
theorem answer_foldlM_count_of_fails {l : List Statement} {s : Statement} (hs : s ∈ l)
    (hcovers : s.Covers action) (hfails : s.Fails request) (tally : Tally) :
    ∃ e, (l.foldlM (count request.toContext request.resource? action) tally).answer =
      .error e := by
  rw [answer_foldlM (cacheBlind_count _ _ _)]
  induction l generalizing tally with
  | nil => exact absurd hs List.not_mem_nil
  | cons t l ih =>
    rw [List.foldlM_cons]
    cases ht : (count request.toContext request.resource? action tally t).answer with
    | error e => exact ⟨e, rfl⟩
    | ok tally' =>
      rcases List.mem_cons.1 hs with rfl | hs
      · obtain ⟨e, he⟩ := answer_count_of_fails tally hcovers hfails
        rw [he] at ht
        cases ht
      · exact ih hs tally'

/-- Where no statement does, counting adds what the statements add up to. -/
theorem answer_foldlM_count_of_not_fails {l : List Statement}
    (h : ∀ s ∈ l, ¬(s.Covers action ∧ s.Fails request)) (tally : Tally) :
    (l.foldlM (count request.toContext request.resource? action) tally).answer =
      .ok (tally + Tally.ofStatements request action l) := by
  rw [answer_foldlM (cacheBlind_count _ _ _)]
  induction l generalizing tally with
  | nil => rfl
  | cons s l ih =>
    rw [List.foldlM_cons, answer_count_of_not_fails tally (h s List.mem_cons_self)]
    refine (ih (fun t ht => h t (List.mem_cons_of_mem s ht)) _).trans ?_
    rw [← Tally.add_ofStatements_cons]

/-! ### The decision -/

section Check

variable (engine : DenyOverrides) (request : Request) (action : String)

theorem cacheBlind_report (tally : Tally) :
    (do
      if 0 < tally.denying && engine.config.logDenials then
        Decision.ofOutcome (.emit (.denied request.claims.sub action))
      return tally.toCheck : Decision ActionCheck).CacheBlind := by
  cases (decide (0 < tally.denying) && engine.config.logDenials) with
  | true => exact (cacheBlind_ofOutcome _).bind fun _ => cacheBlind_pure _
  | false => exact cacheBlind_pure _

theorem cacheBlind_check : (engine.check request action).CacheBlind :=
  (CacheBlind.foldlM (cacheBlind_count _ _ _) _ _).bind (cacheBlind_report engine request action)

/-- A decision is what the count of the statements amounts to. -/
theorem answer_check :
    (engine.check request action).answer =
      ((engine.statements request).foldlM (count request.toContext request.resource? action)
        {}).answer.map Tally.toCheck := by
  refine (answer_bind (CacheBlind.foldlM (cacheBlind_count _ _ _) _ _)
    (cacheBlind_report engine request action)).trans ?_
  cases ((engine.statements request).foldlM
    (count request.toContext request.resource? action) {}).answer with
  | error e => rfl
  | ok tally =>
    change Decision.answer (ite _ _ _) = _
    cases (decide (0 < tally.denying) && engine.config.logDenials) <;> rfl

/-- A decision fails exactly where a statement covers the action and fails for the request. -/
theorem answer_check_error_iff :
    (∃ e, (engine.check request action).answer = .error e) ↔
      ∃ s ∈ engine.statements request, s.Covers action ∧ s.Fails request := by
  rw [answer_check]
  constructor
  · rintro ⟨e, he⟩
    by_contra hnone
    rw [answer_foldlM_count_of_not_fails fun s hs hboth => hnone ⟨s, hs, hboth⟩] at he
    cases he
  · rintro ⟨s, hs, hcovers, hfails⟩
    obtain ⟨e, he⟩ := answer_foldlM_count_of_fails hs hcovers hfails {}
    exact ⟨e, by rw [he]; rfl⟩

variable {engine request action}

/-- Any other decision is what the statements add up to. -/
theorem eq_of_answer_check {check : ActionCheck}
    (h : (engine.check request action).answer = .ok check) :
    check = (Tally.ofStatements request action (engine.statements request)).toCheck := by
  have hfails : ∀ s ∈ engine.statements request, ¬(s.Covers action ∧ s.Fails request) := by
    intro s hs hboth
    obtain ⟨e, he⟩ := (answer_check_error_iff engine request action).2 ⟨s, hs, hboth⟩
    rw [he] at h
    cases h
  rw [answer_check, answer_foldlM_count_of_not_fails hfails] at h
  refine (Except.ok.inj h).symm.trans (congrArg Tally.toCheck ?_)
  simp [Tally.add_def]

end Check

/-! ### The policies of the caller's roles -/

section Held

variable {policies : List Policy} {roles : List Role} {config : Config} {engine : DenyOverrides}

/-- The policies that the roles of a caller refer to: the roles that are claimed and the one that
everybody has. -/
def HeldPolicies (policies : List Policy) (roles : List Role) (config : Config)
    (request : Request) : Set Policy :=
  PolicySource.Held policies roles {id | id ∈ request.claims.roles ∨ id = config.implicitRole}

/-- A configuration that makes sense is used as it is. -/
theorem eq_of_ofSource {source : PolicySource} (h : ofSource source config = .ok engine) :
    engine = ⟨source, config⟩ := by
  rw [ofSource] at h
  cases hvalid : config.validate with
  | error e => rw [hvalid] at h; cases h
  | ok valid => rw [hvalid] at h; exact (Except.ok.inj h).symm

variable (built : ofSource (.ofLists policies roles) config = .ok engine)

include built

/-- A decision considers the policies that the roles of the caller refer to, each once. -/
theorem mem_policies {policy : Policy} :
    policy ∈ engine.policies request ↔ policy ∈ HeldPolicies policies roles config request := by
  rw [eq_of_ofSource built]
  refine PolicySource.mem_distinctPolicies_ofLists.trans ?_
  simp only [HeldPolicies, Request.mem_roles]

/-- A statement that a decision considers belongs to one of these policies. -/
theorem exists_mem_statements_iff {P : Statement → Prop} :
    (∃ s ∈ engine.statements request, P s) ↔
      ∃ policy ∈ HeldPolicies policies roles config request, ∃ s ∈ policy.statements, P s := by
  simp only [statements, List.mem_flatMap, mem_policies built]
  constructor
  · rintro ⟨s, ⟨policy, hp, hs⟩, h⟩
    exact ⟨policy, hp, s, hs, h⟩
  · rintro ⟨policy, hp, s, hs, h⟩
    exact ⟨s, ⟨policy, hp, hs⟩, h⟩

/-- The statements that a decision considers are counted policy by policy. -/
theorem countP_statements (p : Statement → Bool) :
    (engine.statements request).countP p =
      ∑ᶠ policy ∈ HeldPolicies policies roles config request, policy.statements.countP p := by
  classical
  have hset : HeldPolicies policies roles config request =
      ((engine.policies request).toFinset : Set Policy) := by
    ext policy
    rw [List.coe_toFinset]
    exact (mem_policies built).symm
  have hnodup : (engine.policies request).Nodup := nodup_distinctPolicies _
  rw [hset, finsum_mem_coe_finset, List.sum_toFinset _ hnodup, statements, List.countP_flatMap]
  rfl

end Held

/-! ### The decision in terms of sets -/

section Decides

variable {policies policies' : List Policy} {roles roles' : List Role} {config config' : Config}
  {engine engine' : DenyOverrides} {cache cache' : PatternCache}

/-- What a decision about a set of policies must be. It fails exactly where a statement covers
the action and fails for the request; any other decision counts the statements policy by policy,
and allows the action if some statement allows it and none denies it. -/
structure Decides (held : Set Policy) (request : Request) (action : String)
    (outcome : Except PolicyError ActionCheck) : Prop where
  error_iff : (∃ e, outcome = .error e) ↔
    ∃ policy ∈ held, ∃ s ∈ policy.statements, s.Covers action ∧ s.Fails request
  matching {check : ActionCheck} : outcome = .ok check →
    check.matching = ∑ᶠ policy ∈ held,
      policy.statements.countP fun s => s.Covers action ∧ s.Concerns request
  allowing {check : ActionCheck} : outcome = .ok check →
    check.allowing = ∑ᶠ policy ∈ held,
      policy.statements.countP fun s => s.effect = .allow ∧ s.Covers action ∧ s.Passes request
  denying {check : ActionCheck} : outcome = .ok check →
    check.denying = ∑ᶠ policy ∈ held,
      policy.statements.countP fun s => s.effect = .deny ∧ s.Covers action ∧ s.Passes request
  allowed_iff {check : ActionCheck} : outcome = .ok check →
    (check.allowed = true ↔ check.denying = 0 ∧ 0 < check.allowing)

/-- An engine decides about the policies that the roles of the caller refer to. -/
theorem decides_check (built : ofSource (.ofLists policies roles) config = .ok engine)
    (request : Request) (action : String) :
    Decides (HeldPolicies policies roles config request) request action
      (engine.check request action).answer where
  error_iff := (answer_check_error_iff engine request action).trans
    (exists_mem_statements_iff built)
  matching h := by
    rw [eq_of_answer_check h]
    exact countP_statements built _
  allowing h := by
    rw [eq_of_answer_check h]
    exact countP_statements built _
  denying h := by
    rw [eq_of_answer_check h]
    exact countP_statements built _
  allowed_iff h := by
    rw [eq_of_answer_check h]
    simp [Tally.toCheck]

/-- What a decision must be leaves no choice, also if the same policies are held for other
reasons, as long as their statements judge both requests alike. -/
theorem Decides.toOption_eq {held : Set Policy} {request' : Request}
    {outcome outcome' : Except PolicyError ActionCheck}
    (h : Decides held request action outcome) (h' : Decides held request' action outcome')
    (halike : ∀ policy ∈ held, ∀ s ∈ policy.statements, s.JudgedAlike request request') :
    outcome.toOption = outcome'.toOption := by
  have hfails : (∃ e, outcome = .error e) ↔ ∃ e, outcome' = .error e := by
    rw [h.error_iff, h'.error_iff]
    refine exists_congr fun policy => and_congr_right fun hp => exists_congr fun s =>
      and_congr_right fun hs => and_congr_right fun _ => (halike policy hp s hs).2.2
  -- Counts are equal where every statement is counted in both or in neither.
  have hcount (q q' : Statement → Prop) [DecidablePred q] [DecidablePred q']
      (hq : ∀ policy ∈ held, ∀ s ∈ policy.statements, (q s ↔ q' s)) :
      (∑ᶠ policy ∈ held, policy.statements.countP fun s => q s) =
        ∑ᶠ policy ∈ held, policy.statements.countP fun s => q' s :=
    finsum_mem_congr rfl fun policy hp => List.countP_congr fun s hs => by simp [hq policy hp s hs]
  cases outcome with
  | error e =>
    obtain ⟨e', rfl⟩ := hfails.1 ⟨e, rfl⟩
    rfl
  | ok check =>
    cases outcome' with
    | error e' =>
      obtain ⟨e, he⟩ := hfails.2 ⟨e', rfl⟩
      cases he
    | ok check' =>
      have hmatching : check.matching = check'.matching := by
        rw [h.matching rfl, h'.matching rfl]
        exact hcount _ _ fun policy hp s hs => and_congr_right fun _ => (halike policy hp s hs).1
      have hallowing : check.allowing = check'.allowing := by
        rw [h.allowing rfl, h'.allowing rfl]
        exact hcount _ _ fun policy hp s hs =>
          and_congr_right fun _ => and_congr_right fun _ => (halike policy hp s hs).2.1
      have hdenying : check.denying = check'.denying := by
        rw [h.denying rfl, h'.denying rfl]
        exact hcount _ _ fun policy hp s hs =>
          and_congr_right fun _ => and_congr_right fun _ => (halike policy hp s hs).2.1
      have hallowed : check.allowed = check'.allowed := by
        rw [Bool.eq_iff_iff, h.allowed_iff rfl, h'.allowed_iff rfl, hallowing, hdenying]
      obtain ⟨allowed, matching, allowing, denying⟩ := check
      obtain ⟨allowed', matching', allowing', denying'⟩ := check'
      simp only at hmatching hallowing hdenying hallowed
      rw [hmatching, hallowing, hdenying, hallowed]

/-- From every faithful cache an engine decides about the policies that the roles of the caller
refer to, and it leaves a faithful cache. Nothing else matters: another source with which another
caller holds the same policies leads to the same decision, however often and in whichever order
names are listed. -/
theorem check_decides_held (built : ofSource (.ofLists policies roles) config = .ok engine)
    (request : Request) (action : String) (hcache : cache.Faithful) :
    Decides (HeldPolicies policies roles config request) request action
        (engine.check request action cache).1.result ∧
      (engine.check request action cache).2.Faithful ∧
      ∀ {policies' roles' config' engine' cache'} {request' : Request},
        ofSource (.ofLists policies' roles') config' = .ok engine' → cache'.Faithful →
        HeldPolicies policies' roles' config' request' =
          HeldPolicies policies roles config request →
        (∀ policy ∈ HeldPolicies policies roles config request, ∀ s ∈ policy.statements,
          s.JudgedAlike request request') →
        (engine'.check request' action cache').1.result.toOption =
          (engine.check request action cache).1.result.toOption := by
  have hdecides := decides_check built request action
  rw [(cacheBlind_check engine request action).result_eq hcache]
  refine ⟨hdecides, (cacheBlind_check engine request action).faithful hcache, ?_⟩
  intro policies' roles' config' engine' cache' request' built' hcache' hheld halike
  rw [(cacheBlind_check engine' request' action).result_eq hcache']
  have hdecides' := decides_check built' request' action
  rw [hheld] at hdecides'
  exact (hdecides.toOption_eq hdecides' halike).symm

/-- A policy that two roles refer to, one of them twice, counts once and as it was given last. -/
theorem check_decides_held_shared :
    let report : Statement := { effect := .allow, actions := ["report:*"] }
    let lockdown : Statement := { effect := .deny, actions := ["*"] }
    let policies : List Policy := [⟨"shared", "", [lockdown]⟩, ⟨"shared", "", [report]⟩]
    let roles : List Role :=
      [{ id := "sales", label := "", policies := ["shared", "missing", "shared"] },
        { id := "anonymous", label := "", policies := ["shared"] }]
    let request : Request := { Moment.epoch with claims := { roles := ["sales"] } }
    let engine : DenyOverrides := ⟨.ofLists policies roles, {}⟩
    ofSource (.ofLists policies roles) {} = .ok engine ∧ ({} : PatternCache).Faithful ∧
      (engine.check request "report:List" {}).1.result = .ok ⟨true, 1, 1, 0⟩ ∧
      Decides (HeldPolicies policies roles {} request) request "report:List"
        (engine.check request "report:List" {}).1.result := by
  intro report lockdown policies roles request engine
  have built : ofSource (.ofLists policies roles) {} = .ok engine := rfl
  exact ⟨built, PatternCache.faithful_empty, by decide +kernel,
    (check_decides_held built request "report:List" PatternCache.faithful_empty).1⟩

end Decides

end DenyOverrides

end AccessPolicy
