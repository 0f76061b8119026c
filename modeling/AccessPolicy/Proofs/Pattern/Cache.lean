import AccessPolicy.Pattern.Cache

/-!
# Faithful caches of patterns

A cache is faithful if each pattern that it keeps is kept with what reading the pattern gives.
An empty cache is faithful, and matching keeps it so (`PatternCache.faithful_matchAction`,
`PatternCache.faithful_matchResource`). From a faithful cache, matching gives what reading the
pattern afresh would give (`PatternCache.matchAction_fst`, `PatternCache.matchResource_fst`).
-/

namespace AccessPolicy

namespace PatternTable

variable {read? : String → Option Pattern.Regex} {table : PatternTable}

/-- Every pattern of the table is kept with what `read?` makes of it. -/
def Faithful (read? : String → Option Pattern.Regex) (table : PatternTable) : Prop :=
  ∀ pattern regex, Entries.get? pattern table = some regex → regex = read? pattern

/-- A table without patterns is faithful. -/
theorem faithful_nil : Faithful read? [] := by
  intro pattern regex found
  simp [Entries.get?] at found

/-- A pattern may be added with what `read?` makes of it. -/
theorem Faithful.insert (h : Faithful read? table) (pattern : String) :
    Faithful read? (Entries.insert pattern (read? pattern) table) := by
  intro other regex found
  by_cases same : other = pattern
  · subst same
    rw [Entries.get?_insert_self] at found
    exact (Option.some.inj found).symm
  · rw [Entries.get?_insert_of_ne same] at found
    exact h other regex found

/-- A faithful table matches as if it had no patterns. -/
theorem matchText_fst (h : Faithful read? table) (capacity : Nat) (pattern text : String) :
    (matchText read? capacity table pattern text).1 =
      Pattern.matchesText (read? pattern) text := by
  unfold matchText
  split
  next regex found => rw [h pattern regex found]
  next => rfl

/-- Matching keeps a table faithful. -/
theorem faithful_matchText (h : Faithful read? table) (capacity : Nat) (pattern text : String) :
    Faithful read? (matchText read? capacity table pattern text).2.2 := by
  unfold matchText
  split
  next => exact h
  next =>
    -- The pattern goes into the table or, where that is full, into an empty one.
    by_cases room : table.length < capacity
    · simpa [room] using h.insert pattern
    · simpa [room] using faithful_nil.insert pattern

end PatternTable

namespace PatternCache

/-- Both parts of the cache keep their patterns with what reading makes of them. -/
structure Faithful (cache : PatternCache) : Prop where
  /-- The globs of actions. -/
  actions : PatternTable.Faithful Pattern.glob? cache.actions
  /-- The wildcard patterns of resources. -/
  resources : PatternTable.Faithful Pattern.wildcard? cache.resources

/-- The globs of actions are kept with what reading gives within some limits. -/
def FaithfulWithin (fits : List Char → Bool) (cache : PatternCache) : Prop :=
  PatternTable.Faithful (Pattern.globWithin? fits) cache.actions

variable {cache : PatternCache} {fits : List Char → Bool}

/-- A faithful cache is faithful where there are no limits. -/
theorem Faithful.within (h : cache.Faithful) : cache.FaithfulWithin fun _ => true :=
  h.actions

/-- A new cache is faithful, whatever its capacity. -/
theorem faithful_new (capacity : Nat) : ({ capacity } : PatternCache).Faithful :=
  ⟨PatternTable.faithful_nil, PatternTable.faithful_nil⟩

/-- A cache of the usual capacity is faithful while it is empty. -/
theorem faithful_empty : ({} : PatternCache).Faithful :=
  faithful_new 4096

/-- A cache that was cleared is faithful. -/
theorem faithful_clear (cache : PatternCache) : cache.clear.Faithful :=
  ⟨PatternTable.faithful_nil, PatternTable.faithful_nil⟩

/-- Within limits, too, a faithful cache matches an action as if it were empty. -/
theorem matchActionWithin_fst (h : cache.FaithfulWithin fits) (glob action : String) :
    (cache.matchActionWithin fits glob action).1 =
      Pattern.matchesText (Pattern.globWithin? fits glob) action :=
  PatternTable.matchText_fst h cache.capacity glob action

/-- A faithful cache matches an action as if it were empty. -/
theorem matchAction_fst (h : cache.Faithful) (glob action : String) :
    (cache.matchAction glob action).1 = Pattern.matchesText (Pattern.glob? glob) action :=
  matchActionWithin_fst h.within glob action

/-- A faithful cache matches a resource as if it were empty. -/
theorem matchResource_fst (h : cache.Faithful) (pattern resource : String) :
    (cache.matchResource pattern resource).1 =
      Pattern.matchesText (Pattern.wildcard? pattern) resource :=
  PatternTable.matchText_fst h.resources cache.capacity pattern resource

/-- Matching an action within limits keeps a cache faithful within them. -/
theorem faithfulWithin_matchActionWithin (h : cache.FaithfulWithin fits) (glob action : String) :
    (cache.matchActionWithin fits glob action).2.2.FaithfulWithin fits :=
  PatternTable.faithful_matchText h cache.capacity glob action

/-- Matching an action keeps a cache faithful. -/
theorem faithful_matchAction (h : cache.Faithful) (glob action : String) :
    (cache.matchAction glob action).2.2.Faithful :=
  ⟨faithfulWithin_matchActionWithin h.within glob action, h.resources⟩

/-- Matching a resource keeps a cache faithful. -/
theorem faithful_matchResource (h : cache.Faithful) (pattern resource : String) :
    (cache.matchResource pattern resource).2.2.Faithful :=
  ⟨h.actions, PatternTable.faithful_matchText h.resources cache.capacity pattern resource⟩

end PatternCache

end AccessPolicy
