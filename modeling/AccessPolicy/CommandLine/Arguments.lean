import AccessPolicy.CommandLine.Help

/-!
# Arguments

The options and commands of the program. Options come before the command and may be given once
each; short ones may stand together. Asking for help or for the version ends the reading, and so
does the first argument that does not fit.
-/

namespace AccessPolicy.CommandLine

/-- How decisions are taken. -/
inductive Strategy where
  /-- Denials win. -/
  | basic
  /-- By inherited roles. -/
  | graph
deriving DecidableEq

/-- What the program is asked to do. -/
inductive Command where
  /-- To decide an action. -/
  | check (action context : String)
  /-- To list the actions that are allowed. -/
  | actions (context : String)
deriving DecidableEq

/-- The options that take a value. -/
inductive ValueOption where
  | policies
  | roles
  | config
  | keys
  | engine
deriving DecidableEq

/-- The options that were given so far. -/
structure Given where
  /-- The options that take a value. -/
  values : List (ValueOption × String) := []
  /-- Whether more is logged. -/
  verbose : Bool := false

/-- What the program is called with. -/
structure Invocation where
  /-- The file with the policies. -/
  policies : String
  /-- The file with the roles. -/
  roles : Option String
  /-- The file with the configuration. -/
  config : Option String
  /-- The file with the keys. -/
  keys : Option String
  /-- How decisions are taken. -/
  strategy : Strategy
  /-- Whether more is logged. -/
  verbose : Bool
  /-- What is to be done. -/
  command : Command
deriving DecidableEq

/-- The file with the context of a command. -/
def Command.context : Command → String
  | .check _ context => context
  | .actions context => context

/-- The files that an invocation names. -/
def Invocation.files (call : Invocation) : List String :=
  [call.policies, call.command.context] ++ call.roles.toList ++ call.config.toList ++
    call.keys.toList

/-- Why there is nothing to be done. -/
inductive Stop where
  /-- A text is asked for. -/
  | text (text : String)
  /-- The arguments do not fit. -/
  | misuse
deriving DecidableEq

/-- The value of an option that was given. -/
def Given.value? (given : Given) (option : ValueOption) : Option String :=
  (given.values.find? fun entry => entry.1 = option).map (·.2)

/-- The strategy of a name. -/
def Strategy.ofName? (name : String) : Option Strategy :=
  if name = "basic" then some .basic
  else if name = "graph" then some .graph
  else none

/-- Gives an option its value. It must have none yet, and the value must not be empty; the
strategy must have a known name. -/
def Given.set (given : Given) (option : ValueOption) (value : String) : Except Stop Given :=
  let fits := if option = .engine then (Strategy.ofName? value).isSome else value ≠ ""
  if fits && (given.value? option).isNone then
    .ok { given with values := (option, value) :: given.values }
  else .error .misuse

/-- Asks for more logging, which must not be asked for twice. -/
def Given.setVerbose (given : Given) : Except Stop Given :=
  if given.verbose then .error .misuse else .ok { given with verbose := true }

/-- Whether an argument is an option and cannot be a value. -/
def isOption (arg : String) : Bool :=
  match arg.toList with
  | '-' :: _ :: _ => true
  | _ => false

/-- The next argument as the value of an option, and the arguments after it. -/
def takeValue : List String → Except Stop (String × List String)
  | [] => .error .misuse
  | value :: rest => if isOption value then .error .misuse else .ok (value, rest)

/-- The option of a long name. -/
def ValueOption.ofName? (name : String) : Option ValueOption :=
  match name with
  | "policies" => some .policies
  | "roles" => some .roles
  | "config" => some .config
  | "keys" => some .keys
  | "engine" => some .engine
  | _ => none

/-- The option of a letter. -/
def ValueOption.ofLetter? (letter : Char) : Option ValueOption :=
  match letter with
  | 'p' => some .policies
  | 'r' => some .roles
  | 'c' => some .config
  | 'k' => some .keys
  | 'e' => some .engine
  | _ => none

/-- The name of a long option and the value that an equals sign attaches to it. -/
def splitLong (cs : List Char) : String × Option String :=
  match Text.cutAt? ['='] cs with
  | some (name, value) => (String.ofList name, some (String.ofList value))
  | none => (String.ofList cs, none)

/-- Reads a long option after its dashes, with the arguments after it. -/
def readLong (environment : Variables) (given : Given) (cs : List Char) (rest : List String) :
    Except Stop (Given × List String) :=
  match splitLong cs with
  | ("verbose", none) => given.setVerbose.map fun given => (given, rest)
  | ("help", none) => .error (.text (longHelp environment))
  | ("version", none) => .error (.text versionText)
  | (name, value?) =>
    match ValueOption.ofName? name, value? with
    | none, _ => .error .misuse
    | some option, some value => (given.set option value).map fun given => (given, rest)
    | some option, none => do
      let (value, rest) ← takeValue rest
      return (← given.set option value, rest)

/-- Reads short options after their dash, with the arguments after them. What follows the letter
of an option that takes a value is the value. -/
def readShort (environment : Variables) (rest : List String) :
    Given → List Char → Except Stop (Given × List String)
  | given, [] => .ok (given, rest)
  | given, c :: cs =>
    match ValueOption.ofLetter? c with
    | some option =>
      match cs with
      | [] => do
        let (value, rest) ← takeValue rest
        return (← given.set option value, rest)
      | '=' :: value => (given.set option (String.ofList value)).map fun given => (given, rest)
      | value => (given.set option (String.ofList value)).map fun given => (given, rest)
    | none =>
      if c = 'v' then do readShort environment rest (← given.setVerbose) cs
      else if c = 'h' then .error (.text (shortHelp environment))
      else if c = 'V' then .error (.text versionText)
      else .error .misuse

/-- The arguments of a command: its positional ones, and the file with the context. -/
structure CommandArguments where
  /-- The positional arguments. -/
  positional : List String := []
  /-- The file with the context. -/
  context : Option String := none

/-- Gives the context, which must not be given twice nor be empty. -/
def CommandArguments.setContext (given : CommandArguments) (value : String) :
    Except Stop CommandArguments :=
  if value = "" ∨ given.context.isSome then .error .misuse
  else .ok { given with context := some value }

/-- Reads the arguments of a command with at most `count` positional ones. -/
def readCommandArguments (help : String) (count : Nat) (given : CommandArguments) :
    List String → Except Stop CommandArguments
  | [] => .ok given
  -- Everything after two dashes is positional.
  | "--" :: rest =>
    let positional := given.positional ++ rest
    if count < positional.length then .error .misuse else .ok { given with positional }
  | arg :: rest =>
    if isOption arg then
      if arg = "-h" ∨ arg = "--help" then .error (.text help)
      else if arg = "--context" then
        match rest with
        | [] => .error .misuse
        | value :: rest =>
          if isOption value then .error .misuse
          else do readCommandArguments help count (← given.setContext value) rest
      else
        match splitLong arg.toList with
        | ("--context", some value) => do
          readCommandArguments help count (← given.setContext value) rest
        | _ => .error .misuse
    else if given.positional.length < count then
      readCommandArguments help count
        { given with positional := given.positional ++ [arg] } rest
    else .error .misuse

/-- Reads a command with its arguments. -/
def readCommand (environment : Variables) (name : String) (rest : List String) :
    Except Stop Command :=
  match name with
  | "check" => do
    let given ← readCommandArguments checkHelp 1 {} rest
    match given.positional, given.context with
    | [action], some context => return .check action context
    | _, _ => throw .misuse
  | "actions" => do
    let given ← readCommandArguments actionsHelp 0 {} rest
    match given.context with
    | some context => return .actions context
    | none => throw .misuse
  | "help" =>
    match rest with
    | [] => throw (.text (longHelp environment))
    | ["check"] => throw (.text checkHelp)
    | ["actions"] => throw (.text actionsHelp)
    | _ => throw .misuse
  | _ => throw .misuse

/-- Reads options up to the command, and the command. Every option takes at least one argument,
so their number bounds the steps. -/
def readOptions (environment : Variables) :
    (fuel : Nat) → Given → List String → Except Stop (Given × Command)
  | 0, _, _ => throw .misuse
  | _, _, [] => throw .misuse
  | fuel + 1, given, arg :: rest =>
    match arg.toList with
    | ['-', '-'] => throw .misuse
    | '-' :: '-' :: cs => do
      let (given, rest) ← readLong environment given cs rest
      readOptions environment fuel given rest
    | '-' :: c :: cs => do
      let (given, rest) ← readShort environment rest given (c :: cs)
      readOptions environment fuel given rest
    | _ => do return (given, ← readCommand environment arg rest)

/-- A file that an option names or, without the option, an environment variable. -/
def fileOf (environment : Variables) (name : String) (given : Option String) :
    Except Stop (Option String) :=
  match given.or (environment name) with
  | some "" => .error .misuse
  | file => .ok file

/-- Reads the arguments of the program. The policies must be given. -/
def Invocation.read (environment : Variables) (args : List String) : Except Stop Invocation := do
  let (given, command) ← readOptions environment args.length {} args
  let some policies ← fileOf environment policiesVariable (given.value? .policies)
    | throw .misuse
  let roles ← fileOf environment rolesVariable (given.value? .roles)
  let config ← fileOf environment configVariable (given.value? .config)
  let strategy := ((given.value? .engine).bind Strategy.ofName?).getD .basic
  return {
    policies, roles, config, keys := given.value? .keys, strategy, verbose := given.verbose,
    command }

end AccessPolicy.CommandLine
