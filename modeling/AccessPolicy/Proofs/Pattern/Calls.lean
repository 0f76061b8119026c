import AccessPolicy.Proofs.Pattern.Cache

/-!
# Calls to a cache of patterns

What a cache is asked over time: to match actions and resources, and to forget its patterns
(`PatternCache.Call`). Whatever the calls before, the cache stays faithful
(`PatternCache.faithful_after`) and small (`PatternCache.length_after_le`), and the calls for
resources leave no trace in what is kept for actions, nor the other way round
(`PatternCache.actions_after_filter`, `PatternCache.resources_after_filter`).
-/

namespace AccessPolicy

namespace PatternTable

variable (read? : String → Option Pattern.Regex) (capacity : Nat) {table : PatternTable}

/-- A table never outgrows its capacity, unless it has none: then it keeps the last pattern. -/
theorem length_matchText_le (h : table.length ≤ max 1 capacity) (pattern text : String) :
    (matchText read? capacity table pattern text).2.2.length ≤ max 1 capacity := by
  unfold matchText
  split
  next => exact h
  next =>
    by_cases room : table.length < capacity
    · have hkept := Entries.length_insert_le pattern (read? pattern) table
      simp only [room, if_true]
      omega
    · have hkept := Entries.length_insert_le pattern (read? pattern) []
      simp only [room, if_false]
      exact Nat.le_trans hkept (Nat.le_max_left 1 capacity)

/-- A pattern is reported when it is added to the table and cannot be read. -/
theorem matchText_events (pattern text : String) :
    (matchText read? capacity table pattern text).2.1 =
      if Entries.get? pattern table = none ∧ read? pattern = none then
        [.unreadablePattern pattern]
      else [] := by
  unfold matchText
  split
  next found => simp [found]
  next missing => simp [missing]

/-- A pattern that was just matched is in the table, so it is not reported again. -/
theorem get?_matchText (h : Faithful read? table) (pattern text : String) :
    Entries.get? pattern (matchText read? capacity table pattern text).2.2 =
      some (read? pattern) := by
  unfold matchText
  split
  next regex found => rw [found, h pattern regex found]
  next => exact Entries.get?_insert_self pattern (read? pattern) _

end PatternTable

namespace PatternCache

/-- What a cache can be asked for. -/
inductive Call where
  /-- Whether an action matches a glob. -/
  | action (glob action : String)
  /-- Whether a resource matches a wildcard pattern. -/
  | resource (pattern resource : String)
  /-- To forget its patterns. -/
  | clear
deriving DecidableEq

namespace Call

/-- Whether the call is about an action. -/
def isAction : Call → Bool
  | .action _ _ => true
  | _ => false

/-- Whether the call is about a resource. -/
def isResource : Call → Bool
  | .resource _ _ => true
  | _ => false

/-- What a match gives if its pattern is read for this match alone. -/
def afresh : Call → Option Bool
  | .action glob text => some (Pattern.matchesText (Pattern.glob? glob) text)
  | .resource pattern text => some (Pattern.matchesText (Pattern.wildcard? pattern) text)
  | .clear => none

end Call

/-- What a call gives, with its events and the cache after it. -/
def call (cache : PatternCache) : Call → Option Bool × List Event × PatternCache
  | .action glob action =>
    let (matched, events, cache) := cache.matchAction glob action
    (some matched, events, cache)
  | .resource pattern resource =>
    let (matched, events, cache) := cache.matchResource pattern resource
    (some matched, events, cache)
  | .clear => (none, [], cache.clear)

/-- The cache after calls one after the other. -/
def after (cache : PatternCache) (calls : List Call) : PatternCache :=
  calls.foldl (fun cache call => (cache.call call).2.2) cache

variable {cache : PatternCache}

/-- What a call does to the globs of actions depends on these alone. -/
theorem actions_call (cache : PatternCache) (call : Call) :
    (cache.call call).2.2.actions = match call with
      | .action glob action =>
        (PatternTable.matchText Pattern.glob? cache.capacity cache.actions glob action).2.2
      | .resource _ _ => cache.actions
      | .clear => [] := by
  cases call <;> rfl

/-- What a call does to the patterns of resources depends on these alone. -/
theorem resources_call (cache : PatternCache) (call : Call) :
    (cache.call call).2.2.resources = match call with
      | .action _ _ => cache.resources
      | .resource pattern resource =>
        (PatternTable.matchText Pattern.wildcard? cache.capacity cache.resources pattern
          resource).2.2
      | .clear => [] := by
  cases call <;> rfl

theorem capacity_call (cache : PatternCache) (call : Call) :
    (cache.call call).2.2.capacity = cache.capacity := by
  cases call <;> rfl

/-- Calls do not change the capacity. -/
theorem capacity_after (cache : PatternCache) (calls : List Call) :
    (cache.after calls).capacity = cache.capacity := by
  induction calls generalizing cache with
  | nil => rfl
  | cons call calls ih => exact (ih _).trans (cache.capacity_call call)

/-! ### One call -/

/-- From a faithful cache a call gives what it would give afresh. -/
theorem call_fst (h : cache.Faithful) (call : Call) : (cache.call call).1 = call.afresh := by
  cases call with
  | action glob action => exact congrArg some (matchAction_fst h glob action)
  | resource pattern resource => exact congrArg some (matchResource_fst h pattern resource)
  | clear => rfl

/-- A call keeps a cache faithful. -/
theorem faithful_call (h : cache.Faithful) (call : Call) : (cache.call call).2.2.Faithful := by
  cases call with
  | action glob action => exact faithful_matchAction h glob action
  | resource pattern resource => exact faithful_matchResource h pattern resource
  | clear => exact faithful_clear cache

/-- Neither part of the cache is larger than its capacity, but one pattern is always kept. -/
structure Small (cache : PatternCache) : Prop where
  /-- The globs of actions. -/
  actions : cache.actions.length ≤ max 1 cache.capacity
  /-- The wildcard patterns of resources. -/
  resources : cache.resources.length ≤ max 1 cache.capacity

/-- A call keeps a cache small. -/
theorem Small.call (h : cache.Small) (call : Call) : (cache.call call).2.2.Small where
  actions := by
    rw [capacity_call, actions_call]
    cases call with
    | action glob action => exact PatternTable.length_matchText_le _ _ h.actions glob action
    | resource => exact h.actions
    | clear => exact Nat.zero_le _
  resources := by
    rw [capacity_call, resources_call]
    cases call with
    | action => exact h.resources
    | resource pattern resource =>
      exact PatternTable.length_matchText_le _ _ h.resources pattern resource
    | clear => exact Nat.zero_le _

/-! ### Calls one after the other -/

/-- Calls keep a cache faithful. -/
theorem faithful_after (h : cache.Faithful) (calls : List Call) : (cache.after calls).Faithful := by
  induction calls generalizing cache with
  | nil => exact h
  | cons call calls ih => exact ih (faithful_call h call)

/-- Calls keep a cache small. -/
theorem Small.after (h : cache.Small) (calls : List Call) : (cache.after calls).Small := by
  induction calls generalizing cache with
  | nil => exact h
  | cons call calls ih => exact ih (h.call call)

/-- The calls for resources leave no trace in what is kept for actions. -/
theorem actions_after_filter {other : PatternCache} (hactions : cache.actions = other.actions)
    (hcapacity : cache.capacity = other.capacity) (calls : List Call) :
    (cache.after calls).actions =
      (other.after (calls.filter fun call => !call.isResource)).actions := by
  induction calls generalizing cache other with
  | nil => exact hactions
  | cons call calls ih =>
    have hrest : (cache.call call).2.2.capacity = other.capacity := by
      rw [capacity_call, hcapacity]
    by_cases hresource : call.isResource = true
    · rw [List.filter_cons_of_neg (by simp [hresource])]
      refine ih ?_ hrest
      cases call with
      | resource => exact hactions
      | _ => cases hresource
    · rw [List.filter_cons_of_pos (by simp [hresource])]
      refine ih ?_ (hrest.trans (capacity_call other call).symm)
      rw [actions_call, actions_call, hactions, hcapacity]

/-- The calls for actions leave no trace in what is kept for resources. -/
theorem resources_after_filter {other : PatternCache}
    (hresources : cache.resources = other.resources) (hcapacity : cache.capacity = other.capacity)
    (calls : List Call) :
    (cache.after calls).resources =
      (other.after (calls.filter fun call => !call.isAction)).resources := by
  induction calls generalizing cache other with
  | nil => exact hresources
  | cons call calls ih =>
    have hrest : (cache.call call).2.2.capacity = other.capacity := by
      rw [capacity_call, hcapacity]
    by_cases haction : call.isAction = true
    · rw [List.filter_cons_of_neg (by simp [haction])]
      refine ih ?_ hrest
      cases call with
      | action => exact hresources
      | _ => cases haction
    · rw [List.filter_cons_of_pos (by simp [haction])]
      refine ih ?_ (hrest.trans (capacity_call other call).symm)
      rw [resources_call, resources_call, hresources, hcapacity]

end PatternCache

end AccessPolicy
