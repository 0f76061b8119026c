import AccessPolicy.Expression.Context
import AccessPolicy.Expression.Error
import AccessPolicy.Trace

/-!
# Exec operators

An exec operator computes a value from evaluated parameters, an evaluated configuration and the
context of the evaluation.
-/

namespace AccessPolicy

/-- What an exec operator is applied to. -/
structure ExecCall where
  /-- The name that the operator was called by. -/
  operator : String
  /-- The configuration. -/
  config : Fields
  /-- The parameters. -/
  params : Fields

/-- The outcome of an exec operator in a context. -/
abbrev ExecHandler := ExecCall → Context → Outcome ExprError Value

end AccessPolicy
