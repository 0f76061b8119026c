import AccessPolicy.Expression.Engine
import AccessPolicy.Json.Record
import AccessPolicy.Policy.Error
import AccessPolicy.Policy.Statement

/-!
# Policy documents

Statements, policies and roles as documents write them, and what they mean. Everything in a
document is resolved when it is read, so that decisions never read anything.
-/

namespace AccessPolicy

/-- A statement as a document writes it. -/
structure StatementDocument where
  /-- The name of the statement. -/
  id : Option String
  /-- What it does with actions. -/
  effect : Effect
  /-- The globs of its actions. -/
  actions : List String
  /-- The patterns of its resources. -/
  resource : List String
  /-- The condition document. -/
  condition : Value
  /-- Further data for what it allows. -/
  allow : Fields
  /-- Further data for what it denies. -/
  deny : Fields

/-- A policy as a document writes it. -/
structure PolicyDocument where
  /-- The name. -/
  id : String
  /-- A name for readers. -/
  label : Option String
  /-- The statements. -/
  statements : List StatementDocument

/-- A role as a document writes it. -/
structure RoleDocument where
  /-- The name. -/
  id : String
  /-- A name for readers. -/
  label : Option String
  /-- The names of its policies. -/
  policies : List String
  /-- The names of the roles that it inherits. -/
  inherits : List String
  /-- Its own statements. -/
  statements : List StatementDocument
  /-- Roles of higher priority come first. -/
  priority : Int
  /-- The condition document. -/
  condition : Value
  /-- Further data. -/
  customData : Fields

/-- The effect that a value names: its name, or an object with the name as its only field and
null as the value of it. -/
def Effect.ofValue? : Value → Option Effect
  | .string "Allow" => some .allow
  | .string "Deny" => some .deny
  | .object [("Allow", .null)] => some .allow
  | .object [("Deny", .null)] => some .deny
  | _ => none

/-- The texts of a single text or of a list, where null has none. -/
def oneOrMany? : Value → Option (List String)
  | .null => some []
  | .string text => some [text]
  | v => v.texts?

/-- A priority, which has 32 bits. -/
def priority? (v : Value) : Option Int :=
  v.integer?.filter fun n => -Int.pow 2 31 ≤ n && n < Int.pow 2 31

namespace StatementDocument

/-- The statement that a value holds. -/
def ofValue? (v : Value) : Option StatementDocument := do
  let fields ← v.record? ["id", "effect", "actions", "resource", "condition", "allow", "deny"]
  return {
    id := ← Entries.optional? "id" (Value.nullable? Value.text?) none fields
    effect := ← Entries.required? "effect" Effect.ofValue? fields
    actions := ← Entries.optional? "actions" Value.texts? [] fields
    resource := ← Entries.optional? "resource" oneOrMany? [] fields
    condition := ← Entries.optional? "condition" some .null fields
    allow := ← Entries.optional? "allow" Value.fields? [] fields
    deny := ← Entries.optional? "deny" Value.fields? [] fields }

end StatementDocument

/-- The statements that a list holds. -/
def statements? (v : Value) : Option (List StatementDocument) := do
  (← v.items?).mapM StatementDocument.ofValue?

/-- The policy that a value holds. -/
def PolicyDocument.ofValue? (v : Value) : Option PolicyDocument := do
  let fields ← v.record? ["id", "label", "statements"]
  return {
    id := ← Entries.required? "id" Value.text? fields
    label := ← Entries.optional? "label" (Value.nullable? Value.text?) none fields
    statements := ← Entries.optional? "statements" statements? [] fields }

/-- The role that a value holds. -/
def RoleDocument.ofValue? (v : Value) : Option RoleDocument := do
  let fields ← v.record? ["id", "label", "policies", "inherits", "statements", "priority",
    "condition", "customData"]
  return {
    id := ← Entries.required? "id" Value.text? fields
    label := ← Entries.optional? "label" (Value.nullable? Value.text?) none fields
    policies := ← Entries.optional? "policies" Value.texts? [] fields
    inherits := ← Entries.optional? "inherits" Value.texts? [] fields
    statements := ← Entries.optional? "statements" statements? [] fields
    priority := ← Entries.optional? "priority" priority? 0 fields
    condition := ← Entries.optional? "condition" some .null fields
    customData := ← Entries.optional? "customData" Value.fields? [] fields }

/-- A list of texts as a value. -/
def textList (texts : List String) : Value :=
  .array (texts.map .string)

/-- A field with a text, if there is one. -/
def textField (name : String) (text : Option String) : Fields :=
  (text.map fun text => (name, Value.string text)).toList

/-- A field with a value, unless it is null. -/
def valueEntry (name : String) (v : Value) : Fields :=
  if v.isNull then [] else [(name, v)]

/-- A field with an object, unless it is empty. -/
def objectField (name : String) (fields : Fields) : Fields :=
  if fields.isEmpty then [] else [(name, .object fields)]

/-- The value that writes a statement. What says nothing is left out. -/
def StatementDocument.toValue (doc : StatementDocument) : Value :=
  .object (textField "id" doc.id ++
    [("effect", .string doc.effect.name), ("actions", textList doc.actions),
      ("resource", textList doc.resource)] ++
    valueEntry "condition" doc.condition ++ objectField "allow" doc.allow ++
    objectField "deny" doc.deny)

/-- The value that writes a policy. -/
def PolicyDocument.toValue (doc : PolicyDocument) : Value :=
  .object ([("id", .string doc.id)] ++ textField "label" doc.label ++
    [("statements", .array (doc.statements.map StatementDocument.toValue))])

/-- The value that writes a role. -/
def RoleDocument.toValue (doc : RoleDocument) : Value :=
  .object ([("id", .string doc.id)] ++ textField "label" doc.label ++
    [("policies", textList doc.policies), ("inherits", textList doc.inherits),
      ("statements", .array (doc.statements.map StatementDocument.toValue)),
      ("priority", .ofInt doc.priority)] ++
    valueEntry "condition" doc.condition ++ objectField "customData" doc.customData)

/-- Reading documents by an engine, which keeps the templates that it reads. -/
abbrev Compiler (α : Type) := StateT Engine (Except PolicyError) α

namespace Compiler

/-- What a library makes of something. -/
def ofLibrary {α : Type} (f : Library → Except ExprError α) : Compiler α := fun engine =>
  ((f engine.toLibrary).mapError PolicyError.expression).map fun a => (a, engine)

/-- The pattern of a text. -/
def pattern (source : String) : Compiler ResourcePattern := fun engine =>
  match engine.compile source with
  | (.ok template, engine) => .ok (⟨source, template⟩, engine)
  | (.error e, _) => .error (.expression e)

/-- The statement of a document. -/
def statement (doc : StatementDocument) : Compiler Statement := do
  let resource ← doc.resource.mapM pattern
  let condition ← ofLibrary fun library => library.readConditionDocument doc.condition
  return {
    id := doc.id, effect := doc.effect, actions := doc.actions, resource, condition,
    allow := doc.allow, deny := doc.deny }

/-- The policy of a document. -/
def policy (doc : PolicyDocument) : Compiler Policy := do
  if Text.allBlank doc.id then throw (.document .emptyPolicyId)
  let statements ← doc.statements.mapM statement
  return { id := doc.id, label := doc.label.getD doc.id, statements }

/-- The role of a document. -/
def role (doc : RoleDocument) : Compiler Role := do
  if Text.allBlank doc.id then throw (.document .emptyRoleId)
  let statements ← doc.statements.mapM statement
  let condition ← ofLibrary fun library => library.readConditionDocument doc.condition
  return {
    id := doc.id, label := doc.label.getD doc.id, policies := doc.policies,
    inherits := doc.inherits, statements, condition, priority := doc.priority,
    customData := doc.customData }

/-- What `read?` makes of a value; a value that it does not accept is malformed. -/
def decode {β α : Type} (read? : β → Option α) (v : β) : Compiler α :=
  match read? v with
  | some a => pure a
  | none => throw .malformed

/-- The policy that a value holds. -/
def policyOfValue (v : Value) : Compiler Policy := do
  policy (← decode PolicyDocument.ofValue? v)

/-- The role that a value holds. -/
def roleOfValue (v : Value) : Compiler Role := do
  role (← decode RoleDocument.ofValue? v)

end Compiler

end AccessPolicy
