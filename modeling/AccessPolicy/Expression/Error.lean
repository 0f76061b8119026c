/-!
# Errors of expressions

Why a text or a document is no expression, and why an expression has no value. Most of them are
mistakes in expressions, not in the data that they are applied to.
-/

namespace AccessPolicy

/-- What went wrong with an expression. -/
inductive ExprError where
  /-- Nothing answers for the key. -/
  | keyNotFound (key : String)
  /-- The text is no key. -/
  | invalidKey (text : String)
  /-- There is no pipe of the name. -/
  | pipeNotFound (name : String)
  /-- A stage of a segment has no pipe name. -/
  | invalidPipe (stage : String)
  /-- A pipe refuses its arguments. -/
  | invalidPipeArgs (pipe reason : String)
  /-- There is no condition operator of the name. -/
  | conditionNotFound (operator : String)
  /-- A condition document is malformed. -/
  | invalidCondition (reason : String)
  /-- There is no exec operator of the name. -/
  | execNotFound (operator : String)
  /-- An exec operator failed. -/
  | execFailed (operator reason : String)
  /-- A value is of another kind than needed. -/
  | unexpectedType (expected found : String)
deriving DecidableEq

/-- The message of an error. -/
def ExprError.message : ExprError → String
  | .keyNotFound key => "Key not found: " ++ key
  | .invalidKey text => "Invalid key: " ++ text
  | .pipeNotFound name => "Unknown pipe: " ++ name
  | .invalidPipe stage => "Invalid pipe expression: '" ++ stage ++ "'"
  | .invalidPipeArgs pipe reason =>
    "Invalid arguments for pipe '" ++ pipe ++ "': " ++ reason
  | .conditionNotFound operator => "Unknown condition operator: " ++ operator
  | .invalidCondition reason => "Invalid condition: " ++ reason
  | .execNotFound operator => "Unknown exec operator: " ++ operator
  | .execFailed operator reason => "Exec '" ++ operator ++ "' failed: " ++ reason
  | .unexpectedType expected found =>
    "Expression type error: expected " ++ expected ++ ", found " ++ found

end AccessPolicy
