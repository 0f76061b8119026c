import AccessPolicy.Calendar.Instant
import AccessPolicy.Policy.Document

/-!
# Claims and environments

What a caller claims to be, and what is known about the request. Some names are well known and
have values of their own kinds; all others are kept as they are. Instants are written as seconds
since the beginning of 1970.
-/

namespace AccessPolicy

/-- What a caller claims. -/
structure Claims where
  /-- The account. -/
  sub : Option String := none
  /-- When the claims end. -/
  exp : Option Instant := none
  /-- Who issued the claims. -/
  iss : Option String := none
  /-- Whom the claims are meant for. -/
  aud : Option String := none
  /-- When the claims begin. -/
  nbf : Option Instant := none
  /-- When the claims were issued. -/
  iat : Option Instant := none
  /-- The name of the claims. -/
  jti : Option String := none
  /-- The tenant. -/
  tid : Option String := none
  /-- The device. -/
  did : Option String := none
  /-- The brand. -/
  bid : Option String := none
  /-- The organization. -/
  org : Option String := none
  /-- The organization after those that it belongs to. -/
  orgPath : Option (List String) := none
  /-- The roles. -/
  roles : List String := []
  /-- All other claims. -/
  extra : Fields := []

/-- What is known about a request. -/
structure Environment where
  /-- The token that came with it. -/
  token : Option String := none
  /-- Everything else. -/
  extra : Fields := []

/-- The instant of a number of seconds. -/
def secondsInstant? (v : Value) : Option Instant :=
  v.integer?.bind fun seconds => Instant.ofUnix? seconds 0

/-- The roles of a list, without the items that are no texts. Any other value has none. -/
def lenientRoles : Value → List String
  | .array items => items.filterMap Value.text?
  | _ => []

/-- A field with the seconds of an instant, if there is one. -/
def secondsField (name : String) (i : Option Instant) : Fields :=
  (i.map fun i => (name, Value.ofInt i.seconds)).toList

namespace Claims

/-- The names of the well-known claims. -/
def knownNames : List String :=
  ["sub", "exp", "iss", "aud", "nbf", "iat", "jti", "tid", "did", "bid", "org", "orgPath",
    "roles"]

/-- The claims that a value holds. -/
def ofValue? (v : Value) : Option Claims := do
  let fields ← v.fields?
  let text (name : String) : Option (Option String) :=
    Entries.optional? name (Value.nullable? Value.text?) none fields
  let instant (name : String) : Option (Option Instant) :=
    Entries.optional? name (Value.nullable? secondsInstant?) none fields
  return {
    sub := ← text "sub"
    exp := ← instant "exp"
    iss := ← text "iss"
    aud := ← text "aud"
    nbf := ← instant "nbf"
    iat := ← instant "iat"
    jti := ← text "jti"
    tid := ← text "tid"
    did := ← text "did"
    bid := ← text "bid"
    org := ← text "org"
    orgPath := ← Entries.optional? "orgPath" (Value.nullable? Value.texts?) none fields
    roles := lenientRoles ((Entries.get? "roles" fields).getD .null)
    extra := fields.filter fun entry => entry.1 ∉ knownNames }

/-- The well-known claims as fields. What is missing is left out, apart from the roles. -/
def knownFields (claims : Claims) : Fields :=
  textField "sub" claims.sub ++ secondsField "exp" claims.exp ++ textField "iss" claims.iss ++
  textField "aud" claims.aud ++ secondsField "nbf" claims.nbf ++
  secondsField "iat" claims.iat ++ textField "jti" claims.jti ++ textField "tid" claims.tid ++
  textField "did" claims.did ++ textField "bid" claims.bid ++ textField "org" claims.org ++
  (claims.orgPath.map fun path => ("orgPath", textList path)).toList ++
  [("roles", textList claims.roles)]

/-- The value that writes claims. -/
def toValue (claims : Claims) : Value :=
  .object (Entries.insertAll claims.knownFields claims.extra)

end Claims

namespace Environment

/-- The name of the token. -/
def tokenName : String := "Token"

/-- The environment that a value holds. -/
def ofValue? (v : Value) : Option Environment := do
  let fields ← v.fields?
  return {
    token := ← Entries.optional? tokenName (Value.nullable? Value.text?) none fields
    extra := fields.filter fun entry => entry.1 ≠ tokenName }

/-- The value that writes an environment. -/
def toValue (environment : Environment) : Value :=
  let token := (environment.token.map Value.string).getD .null
  .object (Entries.insertAll [(tokenName, token)] environment.extra)

end Environment

end AccessPolicy
