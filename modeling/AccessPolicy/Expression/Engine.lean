import AccessPolicy.Expression.Library

/-!
# Engines

An engine reads templates by a library and keeps those that it has read. When as many are kept as
it has room for, it drops all of them before it keeps the next; without room it keeps none.
-/

namespace AccessPolicy

/-- A library with the templates that were read by it. -/
structure Engine extends Library where
  /-- The number of templates that there is room for. -/
  capacity : Nat := 1000
  /-- The templates by their texts. -/
  templates : Entries String Template := []

namespace Engine

/-- The engine with a template kept. -/
def keep (engine : Engine) (text : String) (template : Template) : Engine :=
  if engine.capacity = 0 then engine
  else
    let kept := if engine.templates.length < engine.capacity then engine.templates else []
    { engine with templates := Entries.insert text template kept }

/-- The template of a text, and the engine after it. -/
def compile (engine : Engine) (text : String) : Except ExprError Template × Engine :=
  match Entries.get? text engine.templates with
  | some template => (.ok template, engine)
  | none =>
    match engine.readTemplate text with
    | .ok template => (.ok template, engine.keep text template)
    | .error e => (.error e, engine)

/-- The value of a text, and the engine after it. -/
def eval (engine : Engine) (context : Context) (text : String) :
    Outcome ExprError Value × Engine :=
  match engine.compile text with
  | (.ok template, engine) => (template.eval context, engine)
  | (.error e, engine) => (.fail e, engine)

/-- The engine without the templates that it kept. -/
def clear (engine : Engine) : Engine :=
  { engine with templates := [] }

/-- The number of templates that the engine keeps. -/
def size (engine : Engine) : Nat :=
  engine.templates.length

end Engine

end AccessPolicy
