import AccessPolicy.Text.Pieces

/-!
# Help texts

What the program says about itself, in short and at length.
-/

namespace AccessPolicy.CommandLine

/-- The text of lines. -/
def unlines (lines : List String) : String :=
  String.join (lines.map fun line => line ++ "\n")

/-- What an environment variable holds. -/
abbrev Variables := String → Option String

/-- The note that an option may come from an environment variable. -/
def variableNote (environment : Variables) (name : String) : String :=
  "[env: " ++ name ++ "=" ++ (environment name).getD "" ++ "]"

/-- The environment variable with the policies. -/
def policiesVariable : String := "WARRANT_POLICIES"

/-- The environment variable with the roles. -/
def rolesVariable : String := "WARRANT_ROLES"

/-- The environment variable with the configuration. -/
def configVariable : String := "WARRANT_CONFIG"

/-- The name and the version of the program. -/
def versionText : String :=
  unlines ["warrant 0.1.0"]

/-- What the program does, how it is called, and its commands. -/
def overview : List String :=
  ["Evaluate authorization decisions against policy documents",
    "",
    "Usage: warrant [OPTIONS] --policies <POLICIES> <COMMAND>",
    "",
    "Commands:",
    "  check    Decide a single action",
    "  actions  List the actions allowed for a context",
    "  help     Print this message or the help of the given subcommand(s)",
    ""]

/-- The form of a file of keys. -/
def keysNote : String :=
  "JSON object of constant keys (`\x7b\"ident:organization\": \"em2m\"\x7d`)"

/-- The help in short. -/
def shortHelp (environment : Variables) : String :=
  unlines (overview ++
    ["Options:",
      "  -p, --policies <POLICIES>  JSON array of policy documents " ++
        variableNote environment policiesVariable,
      "  -r, --roles <ROLES>        JSON array of role documents " ++
        variableNote environment rolesVariable,
      "  -c, --config <CONFIG>      TOML engine configuration " ++
        variableNote environment configVariable,
      "  -k, --keys <KEYS>          " ++ keysNote,
      "  -e, --engine <ENGINE>      Decision strategy [default: basic] " ++
        "[possible values: basic, graph]",
      "  -v, --verbose              Enable verbose logging",
      "  -h, --help                 Print help (see more with '--help')",
      "  -V, --version              Print version"])

/-- The lines about an option, each paragraph of which stands apart. -/
def longOption (head : String) (paragraphs : List String) : List String :=
  let indent := "          "
  ("  " ++ head) ::
    ((paragraphs.map fun line => indent ++ line).intersperse indent ++ [""])

/-- The help at length. -/
def longHelp (environment : Variables) : String :=
  unlines (overview ++ ["Options:"] ++
    longOption "-p, --policies <POLICIES>"
      ["JSON array of policy documents", variableNote environment policiesVariable] ++
    longOption "-r, --roles <ROLES>"
      ["JSON array of role documents", variableNote environment rolesVariable] ++
    longOption "-c, --config <CONFIG>"
      ["TOML engine configuration", variableNote environment configVariable] ++
    longOption "-k, --keys <KEYS>" [keysNote] ++
    longOption "-e, --engine <ENGINE>" ["Decision strategy", "[default: basic]"] ++
    ["          Possible values:",
      "          - basic: Deny-overrides over the caller's role policies",
      "          - graph: Allow-only over the inherited role graph",
      ""] ++
    longOption "-v, --verbose" ["Enable verbose logging"] ++
    longOption "-h, --help" ["Print help (see a summary with '-h')"] ++
    ["  -V, --version",
      "          Print version"])

/-- The help of the command that decides an action. -/
def checkHelp : String :=
  unlines
    ["Decide a single action",
      "",
      "Usage: warrant --policies <POLICIES> check --context <CONTEXT> <ACTION>",
      "",
      "Arguments:",
      "  <ACTION>  Action name (`ident:UpdateMyAccount`)",
      "",
      "Options:",
      "      --context <CONTEXT>  JSON decision context (`claims`, `environment`, `resource`)",
      "  -h, --help               Print help"]

/-- The help of the command that lists actions. -/
def actionsHelp : String :=
  unlines
    ["List the actions allowed for a context",
      "",
      "Usage: warrant --policies <POLICIES> actions --context <CONTEXT>",
      "",
      "Options:",
      "      --context <CONTEXT>  JSON decision context (`claims`, `environment`, `resource`)",
      "  -h, --help               Print help"]

end AccessPolicy.CommandLine
