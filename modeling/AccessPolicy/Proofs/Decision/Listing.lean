import AccessPolicy.Proofs.Decision.DenyOverrides

/-!
# Listings where denials win

Where denials win, the listing of allowed actions tests all statements for the resource and the
condition, while a single decision tests only those that cover its action. So where a listing
succeeds every decision does (`DenyOverrides.not_fails_of_listed`), and some statement allows an
action exactly if a listed glob matches it (`DenyOverrides.exists_listed_iff`). Denials are left to
the decision.
-/

namespace AccessPolicy.DenyOverrides

open Decision

variable {engine : DenyOverrides} {request : Request}

/-! ### The test of a listing -/

section Test

variable (request : Request) (s : Statement)

/-- The test that statements must pass to be listed. -/
def listedIn : Decision Bool := do
  return (← s.applies request.toContext request.resource?) && s.effect = .allow

theorem cacheBlind_listedIn : (listedIn request s).CacheBlind :=
  (s.cacheBlind_applies _ _).bind fun _ => cacheBlind_pure _

theorem answer_listedIn :
    (listedIn request s).answer = do
      return (← (s.applies request.toContext request.resource?).answer) && s.effect = .allow :=
  answer_bind (s.cacheBlind_applies _ _) fun _ => cacheBlind_pure _

variable {request s}

theorem answer_listedIn_eq_true_iff :
    (listedIn request s).answer = .ok true ↔ s.effect = .allow ∧ s.Passes request := by
  rw [answer_listedIn, bind_eq_ok_iff, ← Statement.answer_applies_eq_true_iff]
  constructor
  · rintro ⟨applies, happlies, h⟩
    have hboth : applies = true ∧ s.effect = .allow := by
      simpa [pure, Except.pure] using h
    exact ⟨hboth.2, by rw [happlies, hboth.1]⟩
  · rintro ⟨heffect, happlies⟩
    exact ⟨true, happlies, by simp [heffect, pure, Except.pure]⟩

/-- Statements that deny are tested too, so they may fail as well. -/
theorem answer_listedIn_error_iff :
    (∃ e, (listedIn request s).answer = .error e) ↔ s.Fails request := by
  rw [answer_listedIn, bind_error_iff, Statement.answer_applies_error_iff]
  simp [pure, Except.pure]

end Test

/-! ### The listing -/

theorem cacheBlind_allowedActions (engine : DenyOverrides) (request : Request) :
    (engine.allowedActions request).CacheBlind :=
  (CacheBlind.filterM (cacheBlind_listedIn request) _).bind fun _ => cacheBlind_pure _

theorem answer_allowedActions (engine : DenyOverrides) (request : Request) :
    (engine.allowedActions request).answer = do
      let applying ← (engine.statements request).filterM fun s => (listedIn request s).answer
      return distinctActions applying := by
  refine (answer_bind (CacheBlind.filterM (cacheBlind_listedIn request) _)
    fun _ => cacheBlind_pure _).trans ?_
  rw [answer_filterM (cacheBlind_listedIn request)]
  rfl

/-- Where a listing succeeds, no statement fails. -/
theorem not_fails_of_listed {actions : List String}
    (h : (engine.allowedActions request).answer = .ok actions) {s : Statement}
    (hs : s ∈ engine.statements request) : ¬s.Fails request := by
  intro hfails
  have herror : ∃ e, ((engine.statements request).filterM fun s => (listedIn request s).answer) =
      .error e := filterM_error_iff.2 ⟨s, hs, answer_listedIn_error_iff.2 hfails⟩
  obtain ⟨e, he⟩ := herror
  rw [answer_allowedActions, he] at h
  cases h

/-- A glob is listed if a statement with it allows something on the request. -/
theorem mem_of_listed {actions : List String}
    (h : (engine.allowedActions request).answer = .ok actions) {glob : String} :
    glob ∈ actions ↔ ∃ s ∈ engine.statements request,
      (s.effect = .allow ∧ s.Passes request) ∧ glob ∈ s.actions := by
  rw [answer_allowedActions] at h
  obtain ⟨applying, happlying, h⟩ := bind_eq_ok_iff.1 h
  rw [← Except.ok.inj h]
  simp only [mem_distinctActions, mem_of_filterM_eq_ok happlying, answer_listedIn_eq_true_iff,
    and_assoc]

/-- A listed glob matches an action exactly if a statement allows the action. -/
theorem exists_listed_iff {actions : List String}
    (h : (engine.allowedActions request).answer = .ok actions) {action : String} :
    (∃ glob ∈ actions, Pattern.matchesText (Pattern.glob? glob) action = true) ↔
      ∃ s ∈ engine.statements request,
        s.effect = .allow ∧ s.Covers action ∧ s.Passes request := by
  simp only [mem_of_listed h, Statement.covers_iff]
  constructor
  · rintro ⟨glob, ⟨s, hs, ⟨heffect, hpasses⟩, hglob⟩, hmatches⟩
    exact ⟨s, hs, heffect, ⟨glob, hglob, hmatches⟩, hpasses⟩
  · rintro ⟨s, hs, heffect, ⟨glob, hglob, hmatches⟩, hpasses⟩
    exact ⟨glob, ⟨s, hs, ⟨heffect, hpasses⟩, hglob⟩, hmatches⟩

/-- If a listing succeeds, every decision for the same request does, and statements allow the
action exactly if a listed glob matches it. So what is allowed is matched by a listed glob, and
what is matched is allowed unless a statement denies it. -/
theorem check_of_listed {listing checking matching : PatternCache} {actions : List String}
    (hlisting : listing.Faithful) (hchecking : checking.Faithful) (hmatching : matching.Faithful)
    (h : (engine.allowedActions request listing).1.result = .ok actions) (action : String) :
    ∃ check, (engine.check request action checking).1.result = .ok check ∧
      (engine.isAllowed request action checking).1.result = .ok check.allowed ∧
      (0 < check.allowing ↔ ∃ glob ∈ actions, (matching.matchAction glob action).1 = true) ∧
      (check.allowed = true → ∃ glob ∈ actions, (matching.matchAction glob action).1 = true) ∧
      (check.denying = 0 → (∃ glob ∈ actions, (matching.matchAction glob action).1 = true) →
        check.allowed = true) := by
  rw [(cacheBlind_allowedActions engine request).result_eq hlisting] at h
  have hresult := (cacheBlind_check engine request action).result_eq hchecking
  cases hcheck : (engine.check request action).answer with
  | error e =>
    -- A statement on which the decision fails would have failed in the listing.
    obtain ⟨s, hs, -, hfails⟩ := (answer_check_error_iff engine request action).1 ⟨e, hcheck⟩
    exact absurd hfails (not_fails_of_listed h hs)
  | ok check =>
    rw [hcheck] at hresult
    -- Both sides say that a statement that allows something covers the action and passes.
    have hallowing : 0 < check.allowing ↔
        ∃ glob ∈ actions, (matching.matchAction glob action).1 = true := by
      simp only [PatternCache.matchAction_fst hmatching]
      rw [exists_listed_iff h, eq_of_answer_check hcheck]
      simp [Tally.toCheck, Tally.ofStatements, List.countP_pos_iff]
    have hallowed : check.allowed = true ↔ check.denying = 0 ∧ 0 < check.allowing := by
      rw [eq_of_answer_check hcheck]
      simp [Tally.toCheck]
    refine ⟨check, hresult, ?_, hallowing, ?_, ?_⟩
    · rw [isAllowed, result_bind, hresult]
      rfl
    · exact fun hyes => hallowing.1 (hallowed.1 hyes).2
    · exact fun hdenying hmatches => hallowed.2 ⟨hdenying, hallowing.2 hmatches⟩

/-- A listed glob matches an action that one statement allows and another one denies. -/
theorem check_of_listed_denied :
    let reports : Statement := { effect := .allow, actions := ["report:*"] }
    let removal : Statement := { effect := .deny, actions := ["*:Delete"] }
    let role : Role := { id := "anonymous", label := "", policies := ["reports"] }
    let engine : DenyOverrides := ⟨.ofLists [⟨"reports", "", [reports, removal]⟩] [role], {}⟩
    let request : Request := { Moment.epoch with }
    ({} : PatternCache).Faithful ∧
      (engine.allowedActions request {}).1.result = .ok ["report:*"] ∧
      (engine.check request "report:Delete" {}).1.result = .ok ⟨false, 2, 1, 1⟩ ∧
      ∃ check, (engine.check request "report:Delete" {}).1.result = .ok check ∧
        (0 < check.allowing ↔
          ∃ glob ∈ ["report:*"], (PatternCache.matchAction {} glob "report:Delete").1 = true) := by
  intro reports removal role engine request
  have hfaithful := PatternCache.faithful_empty
  have hlisted : (engine.allowedActions request {}).1.result = .ok ["report:*"] := by
    decide +kernel
  obtain ⟨check, hcheck, -, hallowing, -⟩ :=
    check_of_listed hfaithful hfaithful hfaithful hlisted "report:Delete"
  exact ⟨hfaithful, hlisted, by decide +kernel, check, hcheck, hallowing⟩

end AccessPolicy.DenyOverrides
