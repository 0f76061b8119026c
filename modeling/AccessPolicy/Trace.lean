/-!
# Outcomes with a trace

Evaluating an expression or taking a decision yields a value or an error, and along the way the
events that an observer may log. The events are kept also when the evaluation fails.

Left out is what the program notes about its own course below the level of a warning: what it
loaded and compiled, how a condition or a decision turned out and that a full cache was cleared.
-/

namespace AccessPolicy

/-- How urgent an event is. -/
inductive LogLevel where
  | trace
  | debug
  | info
  | warn
  | error
deriving DecidableEq

/-- The name of a level. -/
def LogLevel.name : LogLevel → String
  | .trace => "trace"
  | .debug => "debug"
  | .info => "info"
  | .warn => "warn"
  | .error => "error"

/-- The level of a name; a name of no level stands for `info`. -/
def LogLevel.ofName (name : String) : LogLevel :=
  match name with
  | "trace" => .trace
  | "debug" => .debug
  | "warn" => .warn
  | "error" => .error
  | _ => .info

/-- Something that happened during an evaluation. -/
inductive Event where
  /-- An expression asked for a message to be logged. -/
  | message (level : LogLevel) (text : String)
  /-- A deny statement blocked an action of an account. -/
  | denied (account : Option String) (action : String)
  /-- A pattern is malformed and matches nothing. -/
  | unreadablePattern (pattern : String)
deriving DecidableEq

namespace Event

/-- The level at which an event is logged. -/
def level : Event → LogLevel
  | .message level _ => level
  | .denied _ _ => .warn
  | .unreadablePattern _ => .warn

/-- The text that is logged. -/
def text : Event → String
  | .message _ text => text
  | .denied account action =>
    "User attempted to execute an explicitly denied action: Account ID = " ++
      account.getD "<none>" ++ ", Action = " ++ action
  | .unreadablePattern _ => "ignoring pattern that does not compile"

end Event

/-- The result of an evaluation together with its events in order. -/
structure Outcome (ε α : Type) where
  /-- The events of the evaluation. -/
  events : List Event
  /-- The value or the error. -/
  result : Except ε α

namespace Outcome

variable {ε δ α β : Type}

/-- A value without events. -/
def ok (a : α) : Outcome ε α :=
  ⟨[], .ok a⟩

/-- An error without events. -/
def fail (e : ε) : Outcome ε α :=
  ⟨[], .error e⟩

/-- One event. -/
def emit (event : Event) : Outcome ε Unit :=
  ⟨[event], .ok ()⟩

/-- A result without events. -/
def ofExcept (result : Except ε α) : Outcome ε α :=
  ⟨[], result⟩

/-- Goes on with the value, if there is one; the events of both parts follow each other. -/
def andThen (x : Outcome ε α) (f : α → Outcome ε β) : Outcome ε β :=
  match x.result with
  | .ok a => ⟨x.events ++ (f a).events, (f a).result⟩
  | .error e => ⟨x.events, .error e⟩

/-- The outcome with its error translated. -/
def mapError (f : ε → δ) (x : Outcome ε α) : Outcome δ α :=
  ⟨x.events, x.result.mapError f⟩

instance : Monad (Outcome ε) where
  pure := ok
  bind := andThen

end Outcome

end AccessPolicy
