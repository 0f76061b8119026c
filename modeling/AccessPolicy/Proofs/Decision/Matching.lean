import AccessPolicy.Proofs.Decision.Answer
import Mathlib.Data.List.Dedup

/-!
# Statements on their own

What a statement says about an action (`Statement.Covers`) and about a request
(`Statement.Concerns`, `Statement.Passes`, `Statement.Fails`), as propositions about the answers
of its tests.
-/

namespace AccessPolicy

open Decision

/-- The beginning of 1970, with nothing left to chance. -/
def Moment.epoch : Moment where
  now := ⟨0, 0, by decide, by decide⟩
  sample := .zero false

/-! ### The tests of a statement -/

theorem ResourcePattern.cacheBlind_accepts (context : Context) (resource : String)
    (pattern : ResourcePattern) : (pattern.accepts context resource).CacheBlind := by
  refine (cacheBlind_ofOutcome _).bind fun v => ?_
  split
  · exact cacheBlind_matchResource resource _
  · exact cacheBlind_ofOutcome _

namespace Statement

variable (statement : Statement)

theorem cacheBlind_matchesAction (action : String) : (statement.matchesAction action).CacheBlind :=
  CacheBlind.anyM (cacheBlind_matchAction action) statement.actions

theorem cacheBlind_matchesResource (context : Context) (resource : Option String) :
    (statement.matchesResource context resource).CacheBlind := by
  cases resource with
  | none => exact cacheBlind_pure _
  | some resource =>
    exact CacheBlind.anyM (ResourcePattern.cacheBlind_accepts context resource) statement.resource

theorem cacheBlind_holds (context : Context) : (statement.holds context).CacheBlind :=
  cacheBlind_ofOutcome _

theorem cacheBlind_applies (context : Context) (resource : Option String) :
    (statement.applies context resource).CacheBlind :=
  (statement.cacheBlind_matchesResource context resource).bind
    ((statement.cacheBlind_holds context).ite (cacheBlind_pure false))

/-- The test of an action never fails: it looks for a glob that matches. -/
theorem answer_matchesAction (action : String) :
    (statement.matchesAction action).answer =
      .ok (statement.actions.any fun glob => Pattern.matchesText (Pattern.glob? glob) action) := by
  refine (answer_anyM (cacheBlind_matchAction action) statement.actions).trans ?_
  exact anyM_of_ok fun glob _ => answer_matchAction action glob

/-- Some glob of the statement matches the action. -/
def Covers (action : String) : Prop :=
  (statement.matchesAction action).answer = .ok true

/-- The request passes the resource test of the statement. -/
def Concerns (request : Request) : Prop :=
  (statement.matchesResource request.toContext request.resource?).answer = .ok true

/-- The request passes the resource test and the condition of the statement. -/
def Passes (request : Request) : Prop :=
  statement.Concerns request ∧ (statement.holds request.toContext).answer = .ok true

/-- The resource test returns an error for the request, or it passes and the condition returns
an error. -/
def Fails (request : Request) : Prop :=
  (∃ e, (statement.matchesResource request.toContext request.resource?).answer = .error e) ∨
    statement.Concerns request ∧ ∃ e, (statement.holds request.toContext).answer = .error e

instance (action : String) : Decidable (statement.Covers action) :=
  inferInstanceAs (Decidable (_ = _))

instance (request : Request) : Decidable (statement.Concerns request) :=
  inferInstanceAs (Decidable (_ = _))

instance (request : Request) : Decidable (statement.Passes request) :=
  inferInstanceAs (Decidable (_ ∧ _))

/-- Two requests lead to the same verdict of a statement. -/
def JudgedAlike (request other : Request) : Prop :=
  (statement.Concerns request ↔ statement.Concerns other) ∧
    (statement.Passes request ↔ statement.Passes other) ∧
    (statement.Fails request ↔ statement.Fails other)

variable {statement}

theorem covers_iff {action : String} :
    statement.Covers action ↔
      ∃ glob ∈ statement.actions, Pattern.matchesText (Pattern.glob? glob) action = true := by
  rw [Covers, answer_matchesAction, Except.ok.injEq, List.any_eq_true]

/-- A statement that does not cover an action answers so. -/
theorem answer_of_not_covers {action : String} (h : ¬statement.Covers action) :
    (statement.matchesAction action).answer = .ok false := by
  rw [Covers, answer_matchesAction, Except.ok.injEq, Bool.not_eq_true] at h
  rw [answer_matchesAction, h]

variable {request : Request}

/-- A statement that neither fails for a request nor concerns it answers that it does not. -/
theorem answer_of_not_concerns (hfails : ¬statement.Fails request)
    (h : ¬statement.Concerns request) :
    (statement.matchesResource request.toContext request.resource?).answer = .ok false := by
  cases hanswer : (statement.matchesResource request.toContext request.resource?).answer with
  | error e => exact absurd (Or.inl ⟨e, hanswer⟩) hfails
  | ok concerns =>
    cases concerns with
    | false => rfl
    | true => exact absurd hanswer h

/-- A statement that concerns a request and neither fails nor passes has a condition that does
not hold. -/
theorem answer_of_not_passes (hfails : ¬statement.Fails request)
    (hconcerns : statement.Concerns request) (h : ¬statement.Passes request) :
    (statement.holds request.toContext).answer = .ok false := by
  cases hanswer : (statement.holds request.toContext).answer with
  | error e => exact absurd (Or.inr ⟨hconcerns, e, hanswer⟩) hfails
  | ok holds =>
    cases holds with
    | false => rfl
    | true => exact absurd ⟨hconcerns, hanswer⟩ h

/-- The answer to whether a statement applies. -/
theorem answer_applies (context : Context) (resource : Option String) :
    (statement.applies context resource).answer = do
      if ← (statement.matchesResource context resource).answer then
        (statement.holds context).answer
      else return false := by
  refine (answer_bind (statement.cacheBlind_matchesResource context resource)
    ((statement.cacheBlind_holds context).ite (cacheBlind_pure false))).trans ?_
  refine bind_congr fun concerns => ?_
  cases concerns <;> rfl

theorem answer_applies_eq_true_iff :
    (statement.applies request.toContext request.resource?).answer = .ok true ↔
      statement.Passes request := by
  rw [answer_applies, Passes, Concerns]
  cases (statement.matchesResource request.toContext request.resource?).answer with
  | error e => simp [bind, Except.bind]
  | ok concerns => cases concerns <;> simp [bind, Except.bind, pure, Except.pure]

theorem answer_applies_error_iff :
    (∃ e, (statement.applies request.toContext request.resource?).answer = .error e) ↔
      statement.Fails request := by
  rw [answer_applies, Fails, Concerns]
  cases (statement.matchesResource request.toContext request.resource?).answer with
  | error e => simp [bind, Except.bind]
  | ok concerns => cases concerns <;> simp [bind, Except.bind, pure, Except.pure]

end Statement

end AccessPolicy
