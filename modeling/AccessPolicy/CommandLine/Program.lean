import AccessPolicy.CommandLine.Arguments
import AccessPolicy.Decision.DenyOverrides
import AccessPolicy.Decision.RoleGrants
import AccessPolicy.Json.Reader
import AccessPolicy.Json.Writer

/-!
# The program

Takes a decision by the documents in files. The files, the environment and the moment are given
as a host, so that the program itself is a function. Success has the exit code zero, failure one,
and misuse two. What exactly was wrong with a text that is no JSON, or with the arguments, is left
out of the messages.
-/

namespace AccessPolicy.CommandLine

/-- What the program runs on. -/
structure Host where
  /-- The texts of files by their paths. -/
  file? : String → Option String
  /-- The environment variables. -/
  environment : Variables
  /-- The clock and a random number. -/
  moment : Moment

/-- What the program leaves behind. -/
structure Report where
  /-- The exit code. -/
  code : Nat
  /-- The output. -/
  output : String := ""
  /-- Messages about what happened. -/
  notes : List String := []

/-- Why the program fails. -/
inductive Failure where
  /-- A file cannot be read. -/
  | unreadable (path : String)
  /-- A file is no JSON. -/
  | notJson (path : String)
  /-- A file of keys holds no object. -/
  | notKeys (path : String)
  /-- The policies or the request are at fault. -/
  | policy (error : PolicyError)
deriving DecidableEq

/-- The message of a failure. -/
def Failure.message : Failure → String
  | .unreadable path => "Failed to read " ++ path
  | .notJson path => "Invalid JSON in " ++ path
  | .notKeys path => path ++ " must hold a JSON object of keys"
  | .policy error => error.message

namespace Host

/-- The text of a file. -/
def text (host : Host) (path : String) : Except Failure String :=
  match host.file? path with
  | some text => .ok text
  | none => .error (.unreadable path)

/-- The value in a file. -/
def value (host : Host) (path : String) : Except Failure Value := do
  match Json.read? (← host.text path) with
  | some v => return v
  | none => throw (.notJson path)

/-- The value in a file, if one is named, and else null. -/
def optionalValue (host : Host) : Option String → Except Failure Value
  | some path => host.value path
  | none => .ok .null

/-- The configuration in a file. -/
def config (host : Host) : Option String → Except Failure Config
  | some path => do (Config.ofToml (← host.text path)).mapError .policy
  | none => .ok {}

/-- The keys in a file, each with a fixed value. -/
def keys (host : Host) : Option String → Except Failure (List KeyResolver)
  | some path => do
    let .object fields ← host.value path | throw (.notKeys path)
    let handlers ← fields.mapM fun (name, v) => do
      let key ← (Key.read name).mapError fun e => Failure.policy (.expression e)
      return (key, KeyHandler.const v)
    return [.ofHandlers handlers]
  | none => .ok []

end Host

/-- Everything that decisions need. -/
structure Loaded where
  /-- The configuration. -/
  config : Config
  /-- The policies and roles. -/
  source : PolicySource
  /-- The request. -/
  request : Request

/-- Reads the files that an invocation names. -/
def Host.load (host : Host) (call : Invocation) : Except Failure Loaded := do
  let config ← host.config call.config
  let keys ← host.keys call.keys
  let policies ← host.value call.policies
  let roles ← host.optionalValue call.roles
  let compiled := (PolicySource.ofValues policies roles).run (config.engine keys)
  let (source, _) ← compiled.mapError Failure.policy
  let context ← host.value call.command.context
  let request ← (Request.ofValue host.moment context).mapError Failure.policy
  return { config, source, request }

/-- The decision that a command asks for, as a value. -/
def decide (loaded : Loaded) (strategy : Strategy) (command : Command) : Decision Value := do
  let request := loaded.request
  match strategy, command with
  | .basic, .check action _ =>
    let engine ← .ofResult (DenyOverrides.ofSource loaded.source loaded.config)
    let check ← engine.check request action
    return .object [("action", .string action), ("allowed", .bool check.allowed),
      ("check", check.toValue)]
  | .graph, .check action _ =>
    let engine ← .ofResult (RoleGrants.ofSource loaded.source loaded.config)
    let allowed ← engine.isAllowed request action
    return .object [("action", .string action), ("allowed", .bool allowed)]
  | .basic, .actions _ =>
    let engine ← .ofResult (DenyOverrides.ofSource loaded.source loaded.config)
    return textList (← engine.allowedActions request)
  | .graph, .actions _ =>
    let engine ← .ofResult (RoleGrants.ofSource loaded.source loaded.config)
    return textList (← engine.allowedActions request)

/-- Whether events of a level are reported, where `verbose` asks for more of them. -/
def isReported (verbose : Bool) : LogLevel → Bool
  | .trace => false
  | .debug => verbose
  | .info => verbose
  | .warn => true
  | .error => true

/-- The line that reports an event. -/
def eventLine (event : Event) : String :=
  event.level.name ++ ": " ++ event.text

/-- Does what an invocation asks for. -/
def Host.execute (host : Host) (call : Invocation) : Report :=
  match host.load call with
  | .error failure => { code := 1, notes := ["Error: " ++ failure.message] }
  | .ok loaded =>
    let (outcome, _) := decide loaded call.strategy call.command {}
    let events := outcome.events.filter fun event => isReported call.verbose event.level
    match outcome.result with
    | .ok v => { code := 0, output := v.toPrettyJson 0 ++ "\n", notes := events.map eventLine }
    | .error error =>
      { code := 1, notes := events.map eventLine ++ ["Error: " ++ error.message] }

/-- Runs the program with arguments. -/
def Host.run (host : Host) (args : List String) : Report :=
  match Invocation.read host.environment args with
  | .ok call => host.execute call
  | .error (.text text) => { code := 0, output := text }
  | .error .misuse => { code := 2, notes := ["For more information, try '--help'."] }

end AccessPolicy.CommandLine
