import AccessPolicy.Expression.Condition
import AccessPolicy.Expression.Exec

/-!
# Expression trees

Structured expressions: templates, lists and objects of expressions, exec operators and
conditions. Fields of an object whose names begin with `@` steer its evaluation: `@if` guards it,
`@repeat` evaluates it once for each item of a list, `@value` stands for the whole object, and
the fields that begin with `@container` or `@when` put the fields of other objects in their
place.
-/

namespace AccessPolicy

/-- An expression. -/
inductive Expr where
  /-- A template. -/
  | text (template : Template)
  /-- A list. -/
  | array (items : List Expr)
  /-- An object with its fields in order. -/
  | object (fields : List (String × Expr))
  /-- An exec operator with its configuration and its parameters. -/
  | exec (operator : String) (handler : ExecHandler) (config params : List (String × Expr))
  /-- A condition. -/
  | condition (test : ConditionExpr)

/-- The field that guards an object. -/
def guardField : String := "@if"

/-- The field that stands for a whole object. -/
def valueField : String := "@value"

/-- The field with the list that an object is repeated for. -/
def repeatField : String := "@repeat"

/-- How a field of an object takes part in the result. -/
inductive FieldRole where
  /-- It becomes a field. -/
  | plain
  /-- The fields of its objects take its place. -/
  | container
  /-- The fields of the first object of a list take its place. -/
  | choice
  /-- It is no part of the result. -/
  | marker
deriving DecidableEq

/-- The role of a field of the given name. -/
def FieldRole.ofName (name : String) : FieldRole :=
  if (Text.dropFront? "@container".toList name.toList).isSome then .container
  else if (Text.dropFront? "@when".toList name.toList).isSome then .choice
  else if name.toList.head? = some '@' then .marker
  else .plain

namespace Expr

/-- The expression with a fixed value. -/
def const (value : Value) : Expr :=
  .text (.const value)

/-- Whether the expression is an object. -/
def isObject : Expr → Bool
  | .object _ => true
  | _ => false

/-- Whether the expression is a list. -/
def isArray : Expr → Bool
  | .array _ => true
  | _ => false

end Expr

/-- What a repeated object can read about the current item. -/
def repeatState (item : Value) (index size : Nat) : Value :=
  .object [("item", item), ("index", .ofNat index), ("size", .ofNat size),
    ("first", .bool (index = 0)), ("last", .bool (index + 1 = size)),
    ("even", .bool (index % 2 = 0)), ("odd", .bool (index % 2 = 1))]

/-- The context for one item of a repeated object. -/
def Context.forItem (context : Context) (item : Value) (index size : Nat) : Context :=
  { context with toScope := context.toScope.assign "repeat" (repeatState item index size) }

/-- The fields so far after a field with the given value. -/
def addField (out : Fields) (role : FieldRole) (name : String) (expr : Expr) (v : Value) : Fields :=
  match role, v with
  | .container, .object child => Entries.insertAll out child
  | role, v =>
    -- An object that its guard kept out leaves no field.
    if expr.isObject && v.isNull then out
    else
      match role, expr.isArray, v with
      | .container, true, .array items =>
        items.foldl (fun out item =>
          match item with
          | .object child => Entries.insertAll out child
          | _ => out) out
      | _, _, v => Entries.insert name v out

/-- The fields so far after a choice with the given value. -/
def addChoice (out : Fields) : Option Value → Fields
  | some (.object child) => Entries.insertAll out child
  | _ => out

/-- Whether a guard with the given value, if there is one, keeps an object out. -/
def guardFails : Option Value → Bool
  | some v => !v.truthy
  | none => false

namespace Expr

mutual

/-- The value of an expression. A guarded object is null, a repeated one a list. -/
def eval (context : Context) : Expr → Outcome ExprError Value
  | .text template => template.eval context
  | .array items => do return .array (← evalItems context items)
  | .object fields => do
    -- The guard comes first, so that nothing else of a guarded object is evaluated.
    if guardFails (← evalField context guardField fields) then return .null
    match ← evalField context repeatField fields with
    | some list =>
      let items := list.asList
      let values ← items.zipIdx.mapM fun (item, index) => do
        let context := context.forItem item index items.length
        match ← evalField context valueField fields with
        | some v => return v
        | none => return .object (← render context [] fields)
      return .array values
    | none =>
      match ← evalField context valueField fields with
      | some v => return v
      | none => return .object (← render context [] fields)
  | .exec operator handler config params => do
    let config ← evalFields context config
    let params ← evalFields context params
    handler ⟨operator, config, params⟩ context
  | .condition test => do return .bool (← test.eval context)

/-- Whether an expression is an object that its guard keeps out. -/
def isSkipped (context : Context) : Expr → Outcome ExprError Bool
  | .object fields => do return guardFails (← evalField context guardField fields)
  | _ => return false

/-- The value of the first field of a name, if there is one. -/
def evalField (context : Context) (name : String) :
    List (String × Expr) → Outcome ExprError (Option Value)
  | [] => return none
  | (n, expr) :: rest =>
    if n = name then do return some (← expr.eval context) else evalField context name rest

/-- The values of a list, without the objects whose guards fail. -/
def evalItems (context : Context) : List Expr → Outcome ExprError (List Value)
  | [] => return []
  | item :: rest => do
    if ← item.isSkipped context then evalItems context rest
    else
      let v ← item.eval context
      return v :: (← evalItems context rest)

/-- The values of named expressions. -/
def evalFields (context : Context) : List (String × Expr) → Outcome ExprError Fields
  | [] => return []
  | (name, expr) :: rest => do
    let v ← expr.eval context
    return (name, v) :: (← evalFields context rest)

/-- The fields of an object after those that are already rendered. -/
def render (context : Context) (out : Fields) :
    List (String × Expr) → Outcome ExprError Fields
  | [] => return out
  | (name, expr) :: rest =>
    match FieldRole.ofName name with
    | .marker => render context out rest
    | .choice => do
      match ← evalChoice context expr with
      | some chosen => render context (addChoice out chosen) rest
      -- A choice that is no list is a field like any other.
      | none =>
        let v ← expr.eval context
        render context (addField out .choice name expr v) rest
    | role => do
      let v ← expr.eval context
      render context (addField out role name expr v) rest

/-- The first value of a list that is not null, if the expression is a list. -/
def evalChoice (context : Context) : Expr → Outcome ExprError (Option (Option Value))
  | .array branches => do return some (← firstBranch context branches)
  | _ => return none

/-- The first value that is not null, without the objects whose guards fail. -/
def firstBranch (context : Context) : List Expr → Outcome ExprError (Option Value)
  | [] => return none
  | branch :: rest => do
    if ← branch.isSkipped context then firstBranch context rest
    else
      let v ← branch.eval context
      if v.isNull then firstBranch context rest else return some v

end

end Expr

end AccessPolicy
