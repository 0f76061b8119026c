import AccessPolicy.Proofs.Decision.Listing
import AccessPolicy.Proofs.Decision.RoleGrants
import AccessPolicy.Proofs.Pattern.Calls

/-!
# Decisions one after the other

An engine answers questions in turn, and each decision finds the cache of patterns as the one
before left it (`Decision.inTurn`). The answers are those that every question would get by itself
(`Decision.results_inTurn`), because a cache gives for every pattern what reading the pattern
afresh gives, whatever it was asked before (`PatternCache.match_after_calls`).
-/

namespace AccessPolicy

namespace Decision

variable {α : Type}

/-- What decisions give in turn, each with the cache that the one before left. -/
def inTurn : List (Decision α) → PatternCache → List (Outcome PolicyError α)
  | [], _ => []
  | x :: rest, cache => (x cache).1 :: inTurn rest (x cache).2

/-- Decisions in turn come to the results that they have by themselves. -/
theorem results_inTurn {decisions : List (Decision α)} (h : ∀ x ∈ decisions, x.CacheBlind)
    {cache : PatternCache} (hcache : cache.Faithful) :
    (inTurn decisions cache).map (·.result) = decisions.map answer := by
  induction decisions generalizing cache with
  | nil => rfl
  | cons x rest ih =>
    obtain ⟨hx, hrest⟩ := List.forall_mem_cons.1 h
    rw [inTurn, List.map_cons, List.map_cons, hx.result_eq hcache, ih hrest (hx.faithful hcache)]

end Decision

open Decision

/-- What an engine answers. -/
inductive Answer where
  /-- How a decision came about. -/
  | check (check : ActionCheck)
  /-- Whether the caller may do something. -/
  | allowed (allowed : Bool)
  /-- The actions that the caller may do. -/
  | actions (actions : List String)
deriving DecidableEq

namespace DenyOverrides

/-- What can be asked where denials win. -/
inductive Question where
  /-- Whether the caller may do something, and why. -/
  | check (request : Request) (action : String)
  /-- Whether the caller may do something. -/
  | isAllowed (request : Request) (action : String)
  /-- What the caller may do. -/
  | allowedActions (request : Request)

/-- The decision that a question asks for. -/
def ask (engine : DenyOverrides) : Question → Decision Answer
  | .check request action => return .check (← engine.check request action)
  | .isAllowed request action => return .allowed (← engine.isAllowed request action)
  | .allowedActions request => return .actions (← engine.allowedActions request)

theorem cacheBlind_ask (engine : DenyOverrides) (question : Question) :
    (engine.ask question).CacheBlind := by
  cases question with
  | check request action =>
    exact (cacheBlind_check engine request action).bind fun _ => cacheBlind_pure _
  | isAllowed request action =>
    have hallowed : (engine.isAllowed request action).CacheBlind :=
      (cacheBlind_check engine request action).bind fun _ => cacheBlind_pure _
    exact hallowed.bind fun _ => cacheBlind_pure _
  | allowedActions request =>
    exact (cacheBlind_allowedActions engine request).bind fun _ => cacheBlind_pure _

end DenyOverrides

namespace RoleGrants

/-- What can be asked of inherited roles. -/
inductive Question where
  /-- Whether the caller may do something. -/
  | isAllowed (request : Request) (action : String)
  /-- What the caller may do. -/
  | allowedActions (request : Request)

/-- The decision that a question asks for. -/
def ask (engine : RoleGrants) : Question → Decision Answer
  | .isAllowed request action => return .allowed (← engine.isAllowed request action)
  | .allowedActions request => return .actions (← engine.allowedActions request)

theorem cacheBlind_ask (engine : RoleGrants) (question : Question) :
    (engine.ask question).CacheBlind := by
  cases question with
  | isAllowed request action =>
    have hallowed : (engine.isAllowed request action).CacheBlind :=
      (cacheBlind_allowedActions engine request).bind fun _ => cacheBlind_pure _
    exact hallowed.bind fun _ => cacheBlind_pure _
  | allowedActions request =>
    exact (cacheBlind_allowedActions engine request).bind fun _ => cacheBlind_pure _

end RoleGrants

namespace PatternCache

/-- A cache of any capacity, after any calls, matches as if each pattern was read for the match.
Neither of its parts holds more patterns than its capacity, or one if it has none, and the calls
for the one part leave no trace in the other. A match leaves its pattern in its part, and a
pattern is reported by the calls that do not find it there and that cannot read it. So engines
that use the cache in turn come to the results that each question has by itself. -/
theorem match_after_calls (capacity : Nat) (calls : List Call) :
    let cache := ({ capacity } : PatternCache).after calls
    (∀ call, (cache.call call).1 = call.afresh) ∧
      (cache.actions.length ≤ max 1 capacity ∧ cache.resources.length ≤ max 1 capacity) ∧
      (cache.actions = (({ capacity } : PatternCache).after
          (calls.filter fun call => !call.isResource)).actions ∧
        cache.resources = (({ capacity } : PatternCache).after
          (calls.filter fun call => !call.isAction)).resources) ∧
      (∀ glob action, Entries.get? glob (cache.matchAction glob action).2.2.actions =
        some (Pattern.glob? glob)) ∧
      (∀ pattern resource,
        Entries.get? pattern (cache.matchResource pattern resource).2.2.resources =
          some (Pattern.wildcard? pattern)) ∧
      (∀ glob action, (cache.matchAction glob action).2.1 =
        if Entries.get? glob cache.actions = none ∧ Pattern.glob? glob = none then
          [.unreadablePattern glob]
        else []) ∧
      (∀ pattern resource, (cache.matchResource pattern resource).2.1 =
        if Entries.get? pattern cache.resources = none ∧ Pattern.wildcard? pattern = none then
          [.unreadablePattern pattern]
        else []) ∧
      (∀ (engine : DenyOverrides) (questions : List DenyOverrides.Question),
        (inTurn (questions.map engine.ask) cache).map (·.result) =
          questions.map fun question => (engine.ask question).answer) ∧
      ∀ (engine : RoleGrants) (questions : List RoleGrants.Question),
        (inTurn (questions.map engine.ask) cache).map (·.result) =
          questions.map fun question => (engine.ask question).answer := by
  intro cache
  have hfaithful : cache.Faithful := faithful_after (faithful_new capacity) calls
  have hcapacity : cache.capacity = capacity := capacity_after _ calls
  have hsmall : cache.Small := Small.after ⟨Nat.zero_le _, Nat.zero_le _⟩ calls
  refine ⟨call_fst hfaithful, ?_, ⟨actions_after_filter rfl rfl calls,
    resources_after_filter rfl rfl calls⟩, ?_, ?_, ?_, ?_, ?_, ?_⟩
  · rw [← hcapacity]
    exact ⟨hsmall.actions, hsmall.resources⟩
  · exact PatternTable.get?_matchText Pattern.glob? cache.capacity hfaithful.actions
  · exact PatternTable.get?_matchText Pattern.wildcard? cache.capacity hfaithful.resources
  · exact PatternTable.matchText_events Pattern.glob? cache.capacity
  · exact PatternTable.matchText_events Pattern.wildcard? cache.capacity
  · intro engine questions
    rw [results_inTurn (List.forall_mem_map.2 fun question _ => engine.cacheBlind_ask question)
      hfaithful, List.map_map]
    rfl
  · intro engine questions
    rw [results_inTurn (List.forall_mem_map.2 fun question _ => engine.cacheBlind_ask question)
      hfaithful, List.map_map]
    rfl

end PatternCache

end AccessPolicy
