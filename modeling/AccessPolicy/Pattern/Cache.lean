import AccessPolicy.Entries
import AccessPolicy.Pattern.Wildcard
import AccessPolicy.Trace

/-!
# The cache of patterns

Patterns that were read, malformed ones among them, are kept for the next match. Globs of actions
and wildcard patterns of resources are kept apart. When a part of the cache is full it is emptied
before the next pattern is added, and a malformed pattern is reported when it is added; the report
names the pattern, but not what is wrong with it. Comparisons of texts may keep their patterns in a
table in the same way, without a report.
-/

namespace AccessPolicy

/-- Patterns by their text, with what was read of them. -/
abbrev PatternTable := Entries String (Option Pattern.Regex)

/-- The patterns of actions and resources that were used before. -/
structure PatternCache where
  /-- The globs of actions. -/
  actions : PatternTable := []
  /-- The wildcard patterns of resources. -/
  resources : PatternTable := []
  /-- The number of patterns at which a part counts as full. -/
  capacity : Nat := 4096

namespace PatternTable

/-- Whether `text` matches `pattern`, with the events of the match and the table after it. -/
def matchText (read? : String → Option Pattern.Regex) (capacity : Nat) (table : PatternTable)
    (pattern text : String) : Bool × List Event × PatternTable :=
  match Entries.get? pattern table with
  | some regex => (Pattern.matchesText regex text, [], table)
  | none =>
    let regex := read? pattern
    let events := if regex.isNone then [.unreadablePattern pattern] else []
    -- Room is made before the pattern is added, so the part is never empty afterwards.
    let kept := if table.length < capacity then table else []
    (Pattern.matchesText regex text, events, Entries.insert pattern regex kept)

/-- The number of patterns at which the table of text comparisons counts as full. -/
def likeCapacity : Nat := 1024

/-- Whether a text is like a wildcard pattern, either of which may be missing, with the table
after it. Only comparisons of a text with a pattern use the table. -/
def like (table : PatternTable) : (text pattern : Option String) → Bool × PatternTable
  | some text, some pattern =>
    let (matched, _, table) := matchText Pattern.wildcard? likeCapacity table pattern text
    (matched, table)
  | text, pattern => (Pattern.like text pattern, table)

end PatternTable

namespace PatternCache

/-- Whether an action matches a glob, with the events of the match and the cache after it, where
only expressions are read that fit some limits. -/
def matchActionWithin (fits : List Char → Bool) (cache : PatternCache) (glob action : String) :
    Bool × List Event × PatternCache :=
  let (matched, events, actions) :=
    PatternTable.matchText (Pattern.globWithin? fits) cache.capacity cache.actions glob action
  (matched, events, { cache with actions })

/-- Whether an action matches a glob, with the events of the match and the cache after it. -/
def matchAction (cache : PatternCache) (glob action : String) :
    Bool × List Event × PatternCache :=
  cache.matchActionWithin (fun _ => true) glob action

/-- Whether a resource matches a wildcard pattern, with the events of the match and the cache
after it. -/
def matchResource (cache : PatternCache) (pattern resource : String) :
    Bool × List Event × PatternCache :=
  let (matched, events, resources) :=
    PatternTable.matchText Pattern.wildcard? cache.capacity cache.resources pattern resource
  (matched, events, { cache with resources })

/-- The number of actions and of resources in the cache. -/
def size (cache : PatternCache) : Nat × Nat :=
  (cache.actions.length, cache.resources.length)

/-- The cache without its patterns. -/
def clear (cache : PatternCache) : PatternCache :=
  { cache with actions := [], resources := [] }

end PatternCache

end AccessPolicy
