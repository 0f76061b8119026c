import AccessPolicy.Pattern.Cache
import AccessPolicy.Policy.Request
import AccessPolicy.Policy.Source

/-!
# Matching statements

Whether a statement applies to an action and to a request. Matching uses a cache of patterns,
which changes the events of a decision but never its result.
-/

namespace AccessPolicy

/-- A computation with events and errors that uses a cache of patterns. The cache is kept also
when the computation fails. -/
def Decision (α : Type) :=
  PatternCache → Outcome PolicyError α × PatternCache

namespace Decision

variable {α β : Type}

/-- Goes on with the value, if there is one. -/
def andThen (x : Decision α) (f : α → Decision β) : Decision β := fun cache =>
  match x cache with
  | (⟨events, .ok a⟩, cache) =>
    let (y, cache) := f a cache
    (⟨events ++ y.events, y.result⟩, cache)
  | (⟨events, .error e⟩, cache) => (⟨events, .error e⟩, cache)

instance : Monad Decision where
  pure a := fun cache => (.ok a, cache)
  bind := andThen

/-- An outcome that does not need the cache. -/
def ofOutcome (x : Outcome PolicyError α) : Decision α := fun cache =>
  (x, cache)

/-- A result that causes no events. -/
def ofResult (x : Except PolicyError α) : Decision α :=
  ofOutcome (.ofExcept x)

/-- The outcome of an expression. -/
def ofExpression (x : Outcome ExprError α) : Decision α :=
  ofOutcome (x.mapError PolicyError.expression)

/-- An error. -/
def fail (e : PolicyError) : Decision α :=
  ofOutcome (.fail e)

/-- Whether an action matches a glob. -/
def matchAction (action glob : String) : Decision Bool := fun cache =>
  let (matched, events, cache) := cache.matchAction glob action
  (⟨events, .ok matched⟩, cache)

/-- Whether a resource matches a wildcard pattern. -/
def matchResource (resource pattern : String) : Decision Bool := fun cache =>
  let (matched, events, cache) := cache.matchResource pattern resource
  (⟨events, .ok matched⟩, cache)

end Decision

namespace ResourcePattern

/-- Whether a resource matches what the pattern stands for in a context, which must be a text. -/
def accepts (context : Context) (resource : String) (pattern : ResourcePattern) :
    Decision Bool := do
  match ← Decision.ofExpression (pattern.template.eval context) with
  | .string text => Decision.matchResource resource text
  | v => Decision.fail (.patternType pattern.source v.typeName)

end ResourcePattern

namespace Statement

/-- Whether some glob of the statement matches an action. -/
def matchesAction (statement : Statement) (action : String) : Decision Bool :=
  statement.actions.anyM (Decision.matchAction action)

/-- Whether the statement is about a resource. Without one it must have no patterns or a star
among them. -/
def matchesResource (statement : Statement) (context : Context) :
    Option String → Decision Bool
  | none =>
    return statement.resource.isEmpty || statement.resource.any ResourcePattern.isWildcard
  | some resource => statement.resource.anyM (ResourcePattern.accepts context resource)

/-- Whether the condition of the statement holds. -/
def holds (statement : Statement) (context : Context) : Decision Bool :=
  .ofExpression (statement.condition.eval context)

/-- Whether the statement is about a resource and its condition holds. -/
def applies (statement : Statement) (context : Context) (resource : Option String) :
    Decision Bool := do
  if ← statement.matchesResource context resource then statement.holds context else return false

end Statement

/-- The actions of statements, each where it appears first. -/
def distinctActions (statements : List Statement) : List String :=
  (statements.flatMap fun statement => statement.actions).eraseDups

/-- The policies that stand first under their names. -/
def distinctPolicies (policies : List Policy) : List Policy :=
  policies.eraseDupsBy fun later earlier => later.id = earlier.id

end AccessPolicy
