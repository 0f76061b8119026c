import AccessPolicy.Expression.Template

/-!
# Conditions

A condition applies an operator to the value of a key and a list of operands. A condition
document maps operators to keys to operands; a list of conditions holds if all of them do.
-/

namespace AccessPolicy

/-- Whether an operator holds of the value of a key and the list of its operands. -/
abbrev ConditionTest := Value → Value → Bool

/-- The negation of an operator. -/
def ConditionTest.negate (test : ConditionTest) : ConditionTest :=
  fun keyValue operands => !test keyValue operands

/-- An operator applied to a key and the texts of its operands. -/
structure Condition where
  /-- The operator. -/
  operator : String
  /-- The key. -/
  key : String
  /-- The texts of the operands. -/
  operands : List String
deriving DecidableEq

/-- A condition with its parts resolved. -/
structure ReadyCondition where
  /-- The condition. -/
  condition : Condition
  /-- The key. -/
  key : Key
  /-- The handler of the key in the library, if it has one. -/
  handler : Option KeyHandler
  /-- The test of the operator. -/
  test : ConditionTest
  /-- The operands. -/
  operands : List Template

/-- A truth value that depends on the context. -/
inductive ConditionExpr where
  /-- A fixed truth value. -/
  | const (value : Bool)
  /-- Whether all of the conditions hold. -/
  | all (conditions : List ReadyCondition)

namespace Condition

/-- The text of an operand: texts, truth values and numbers may be operands. -/
def readOperand (operator : String) : Value → Except ExprError String
  | .string text => .ok text
  | .bool value => .ok (Value.bool value).toJson
  | .number value => .ok value.toText
  | v =>
    .error (.invalidCondition
      ("unexpected " ++ v.typeName ++ " operand for '" ++ operator ++ "'"))

/-- The texts of one operand or of a list of them. -/
def readOperands (operator : String) : Value → Except ExprError (List String)
  | .array items => items.mapM (readOperand operator)
  | v => (readOperand operator v).map fun text => [text]

/-- The conditions of one operator. -/
def readKeys (operator : String) : Value → Except ExprError (List Condition)
  | .object keys =>
    keys.mapM fun (key, operands) =>
      (readOperands operator operands).map fun operands => ⟨operator, key, operands⟩
  | _ =>
    .error (.invalidCondition ("operator '" ++ operator ++ "' must map keys to operands"))

/-- The conditions of an object, in order. -/
def readFields (fields : Fields) : Except ExprError (List Condition) :=
  (fields.mapM fun (operator, keys) => readKeys operator keys).map List.flatten

/-- The conditions of one item of a list of objects. -/
def readItem : Value → Except ExprError (List Condition)
  | .object fields => readFields fields
  | v => .error (.invalidCondition ("expected an object, found " ++ v.typeName))

/-- The conditions of a document: null, an object or a list of objects. -/
def readDocument : Value → Except ExprError (List Condition)
  | .null => .ok []
  | .object fields => readFields fields
  | .array items => (items.mapM readItem).map List.flatten
  | v => .error (.invalidCondition ("expected an object or array, found " ++ v.typeName))

end Condition

namespace ReadyCondition

/-- Whether the condition holds. A key of the context comes before the handler of the library,
and one of them must know the key. -/
def eval (context : Context) (c : ReadyCondition) : Outcome ExprError Bool :=
  match (context.localHandler? c.key).or c.handler with
  | none => .fail (.keyNotFound c.key.toText)
  | some handler => do
    let operands ← c.operands.mapM (Template.eval context)
    return c.test (handler.value c.key context.toScope) (.array operands)

end ReadyCondition

namespace ConditionExpr

/-- The truth value in a context. Every condition is tested, so that an unknown key is an error
also where an earlier condition fails. -/
def eval (context : Context) : ConditionExpr → Outcome ExprError Bool
  | .const value => .ok value
  | .all conditions => do
    let results ← conditions.mapM (ReadyCondition.eval context)
    return results.all id

/-- The conditions, in order. -/
def conditions : ConditionExpr → List Condition
  | .const _ => []
  | .all conditions => conditions.map (·.condition)

end ConditionExpr

end AccessPolicy
