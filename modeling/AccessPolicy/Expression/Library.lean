import AccessPolicy.Expression.Tree

/-!
# Libraries

The keys, pipes, condition operators and exec operators that expressions may use, and the
expressions that texts and documents denote in terms of them. In a document a text is a template,
an object with the field `@exec` applies an exec operator, and other values stand for themselves.
-/

namespace AccessPolicy

/-- What expressions may use. -/
structure Library extends Vocabulary where
  /-- The condition operators. -/
  conditions : Registry ConditionTest
  /-- The exec operators. -/
  execs : Registry ExecHandler

/-- The field that names the exec operator of an object. -/
def execField : String := "@exec"

/-- The field with the configuration of an exec operator. -/
def configField : String := "@config"

namespace Expr

/-- The names found so far with another one at the end, unless it is among them. -/
def note (found : List String) (name : String) : List String :=
  if name ∈ found then found else found ++ [name]

mutual

/-- The fields found so far, and behind them those that the segments of an expression refer to. -/
def collect (found : List String) : Expr → List String
  | .text template => template.fields.foldl note found
  | .array items => collectItems found items
  | .object fields => collectFields found fields
  -- The configuration of an operator comes before its parameters.
  | .exec _ _ config params => collectFields (collectFields found config) params
  | .condition _ => found

/-- The fields found so far, and behind them those that a list of expressions refers to. -/
def collectItems (found : List String) : List Expr → List String
  | [] => found
  | item :: rest => collectItems (item.collect found) rest

/-- The fields found so far, and behind them those that named expressions refer to. -/
def collectFields (found : List String) : List (String × Expr) → List String
  | [] => found
  | (_, expr) :: rest => collectFields (expr.collect found) rest

end

/-- The fields that an expression refers to, each where it appears first. -/
def fields (expr : Expr) : List String :=
  expr.collect []

end Expr

namespace Library

/-- The exec operator that a value names. -/
def findExec (library : Library) : Value → Except ExprError (String × ExecHandler)
  | .string operator =>
    match library.execs.find? operator with
    | some handler => .ok (operator, handler)
    | none => .error (.execNotFound operator)
  | v => .error (.unexpectedType ("string " ++ execField) v.typeName)

mutual

/-- The expression of a document. -/
def readTree (library : Library) : Value → Except ExprError Expr
  | .string text => (library.readTemplate text).map .text
  | .array items => (readItems library items).map .array
  | .object fields =>
    match Entries.get? execField fields with
    | none => (readFields library fields).map .object
    | some v => do
      let (operator, handler) ← library.findExec v
      let config ← readConfig library operator fields
      let params ← readParams library fields
      return .exec operator handler config params
  | v => .ok (.const v)

/-- The expressions of a list of documents. -/
def readItems (library : Library) : List Value → Except ExprError (List Expr)
  | [] => .ok []
  | v :: rest => do
    let expr ← readTree library v
    return expr :: (← readItems library rest)

/-- The expressions of the fields of an object. -/
def readFields (library : Library) : Fields → Except ExprError (List (String × Expr))
  | [] => .ok []
  | (name, v) :: rest => do
    let expr ← readTree library v
    return (name, expr) :: (← readFields library rest)

/-- The configuration of an exec operator among the fields of its object. -/
def readConfig (library : Library) (operator : String) :
    Fields → Except ExprError (List (String × Expr))
  | [] => .ok []
  | (name, v) :: rest =>
    if name = configField then
      match v with
      | .null => .ok []
      | .object config => readFields library config
      | v =>
        .error (.execFailed operator
          (configField ++ " must be an object, found " ++ v.typeName))
    else readConfig library operator rest

/-- The parameters of an exec operator among the fields of its object. -/
def readParams (library : Library) : Fields → Except ExprError (List (String × Expr))
  | [] => .ok []
  | (name, v) :: rest =>
    if name = execField ∨ name = configField then readParams library rest
    else do
      let expr ← readTree library v
      return (name, expr) :: (← readParams library rest)

end

/-- A condition with its operator, its key and its operands resolved. A key that the library does
not know must be known to the context. -/
def readCondition (library : Library) (condition : Condition) :
    Except ExprError ReadyCondition := do
  let some test := library.conditions.find? condition.operator
    | throw (.conditionNotFound condition.operator)
  let key ← Key.read condition.key
  let operands ← condition.operands.mapM library.readTemplate
  return { condition, key, handler := library.keys.find? key, test, operands }

/-- The truth value of a list of conditions. -/
def readConditions (library : Library) (conditions : List Condition) :
    Except ExprError ConditionExpr :=
  if conditions.isEmpty then .ok (.const true)
  else (conditions.mapM library.readCondition).map .all

/-- The truth value of a condition document. -/
def readConditionDocument (library : Library) (document : Value) :
    Except ExprError ConditionExpr := do
  library.readConditions (← Condition.readDocument document)

/-- Whether all conditions of a list hold. -/
def testConditions (library : Library) (context : Context) (conditions : List Condition) :
    Outcome ExprError Bool := do
  (← Outcome.ofExcept (library.readConditions conditions)).eval context

/-- The value of a key. A key of the context comes before the library. -/
def keyValue (library : Library) (context : Context) (text : String) : Except ExprError Value := do
  let key ← Key.read text
  match (context.localHandler? key).or (library.keys.find? key) with
  | some handler => return handler.value key context.toScope
  | none => throw (.keyNotFound key.toText)

end Library

end AccessPolicy
