import AccessPolicy.Expression.Tree
import AccessPolicy.Proofs.Entries
import AccessPolicy.Proofs.Json.Record
import AccessPolicy.Proofs.Trace

/-!
# Objects field by field

Each field of an object adds entries of its own to the result, in the context of the object
(`Expr.addedEntries`); the entries of all fields one after the other make up the result
(`Expr.render_eq`). An object whose guard passes is its field for the whole value or its fields,
once for each item of its list if it has one (`Expr.eval_object`).
-/

namespace AccessPolicy

/-! ### Values that take the place of a field -/

namespace Value

/-- The fields of an object, and of no other value. -/
def ownFields : Value → Fields
  | .object fields => fields
  | _ => []

/-- The fields of an object, and those of the objects in a list one after the other. -/
def members : Value → Fields
  | .array items => items.flatMap ownFields
  | v => v.ownFields

end Value

namespace Expr

variable {expr : Expr} {v : Value}

/-- Whether the fields of a value take the place of a container: those of an object always, and
those of the objects in a list if the list is written as one. -/
def isMerged (expr : Expr) : Value → Bool
  | .object _ => true
  | .array _ => expr.isArray
  | _ => false

/-- The entries that a field with a value adds to its object. -/
def entriesOf (role : FieldRole) (name : String) (expr : Expr) (v : Value) : Fields :=
  if role = .container ∧ expr.isMerged v then v.members
  else if expr.isObject && v.isNull then []
  else [(name, v)]

theorem addField_of_isMerged (h : expr.isMerged v = true) (out : Fields) (name : String) :
    addField out .container name expr v = Entries.insertAll out v.members := by
  cases v with
  | object child => rfl
  | array items =>
    have harray : expr.isArray = true := h
    simp only [addField, Value.isNull, Bool.and_false, Bool.false_eq_true, if_false, harray]
    rw [Value.members, Entries.insertAll_flatMap]
    congr 1
    funext out item
    cases item <;> rfl
  | _ => cases h

theorem addField_of_not_isMerged {role : FieldRole}
    (h : ¬(role = .container ∧ expr.isMerged v = true)) (out : Fields) (name : String) :
    addField out role name expr v =
      if expr.isObject && v.isNull then out else Entries.insert name v out := by
  cases role with
  | container =>
    cases v with
    | object child => exact absurd ⟨rfl, rfl⟩ h
    | array items =>
      have harray : expr.isArray = false := by simpa [isMerged] using h
      simp only [addField, harray]
    | _ => cases harray : expr.isArray <;> simp only [addField, harray]
  | _ => rfl

/-- A field writes its entries. -/
theorem addField_eq (out : Fields) (role : FieldRole) (name : String) (expr : Expr) (v : Value) :
    addField out role name expr v = Entries.insertAll out (entriesOf role name expr v) := by
  unfold entriesOf
  split
  next hmerged =>
    obtain ⟨rfl, hmerged⟩ := hmerged
    exact addField_of_isMerged hmerged out name
  next hmerged =>
    rw [addField_of_not_isMerged hmerged]
    split
    · rfl
    · rfl

/-! ### The entries of fields -/

/-- The entries that a choice adds to its object. -/
def entriesOfChoice (chosen : Option Value) : Fields :=
  (chosen.map Value.ownFields).getD []

theorem addChoice_eq (out : Fields) (chosen : Option Value) :
    addChoice out chosen = Entries.insertAll out (entriesOfChoice chosen) := by
  cases chosen with
  | none => rfl
  | some v => cases v <;> rfl

/-- The entries that a field adds to its object in a context. -/
def addedEntries (context : Context) (name : String) (expr : Expr) : Outcome ExprError Fields :=
  match FieldRole.ofName name with
  | .marker => pure []
  | .choice => do
    match ← evalChoice context expr with
    | some chosen => return entriesOfChoice chosen
    | none => return entriesOf .choice name expr (← expr.eval context)
  | role => do return entriesOf role name expr (← expr.eval context)

theorem evalChoice_of_not_isArray {expr : Expr} (h : expr.isArray = false) (context : Context) :
    evalChoice context expr = pure none := by
  cases expr with
  | array branches => cases h
  | _ => simp only [evalChoice]

/-- What a field adds follows from its value, unless it chooses from a list. -/
theorem result_addedEntries {context : Context} {name : String} {expr : Expr} {v : Value}
    (hchoice : FieldRole.ofName name = .choice → expr.isArray = false)
    (hv : (expr.eval context).result = .ok v) :
    (addedEntries context name expr).result =
      .ok (if FieldRole.ofName name = .marker then []
        else entriesOf (FieldRole.ofName name) name expr v) := by
  rw [addedEntries]
  cases hrole : FieldRole.ofName name with
  | marker => rfl
  | choice =>
    simp [evalChoice_of_not_isArray (hchoice hrole), hv]
  | _ => simp [hv]

/-- The entries that fields add to their object, one after the other. -/
def allEntries (context : Context) (fields : List (String × Expr)) : Outcome ExprError Fields := do
  return (← fields.mapM fun field => addedEntries context field.1 field.2).flatten

theorem allEntries_cons (context : Context) (name : String) (expr : Expr)
    (fields : List (String × Expr)) :
    allEntries context ((name, expr) :: fields) = do
      let entries ← addedEntries context name expr
      let more ← allEntries context fields
      return entries ++ more := by
  simp only [allEntries, List.mapM_cons, bind_assoc, pure_bind, List.flatten_cons]

theorem allEntries_append (context : Context) (fields more : List (String × Expr)) :
    allEntries context (fields ++ more) = do
      let entries ← allEntries context fields
      let others ← allEntries context more
      return entries ++ others := by
  simp only [allEntries, List.mapM_append, bind_assoc, pure_bind, List.flatten_append]

/-- Rendering the fields of an object writes the entries of the fields in order. -/
theorem render_eq (context : Context) (out : Fields) (fields : List (String × Expr)) :
    render context out fields = Entries.insertAll out <$> allEntries context fields := by
  -- Each field writes to what is there so far, so the object must stay general.
  induction fields generalizing out with
  | nil => rw [render]; rfl
  | cons field fields ih =>
    obtain ⟨name, expr⟩ := field
    rw [render, allEntries_cons, addedEntries]
    cases FieldRole.ofName name with
    | marker => simp [ih]
    | choice =>
      simp only [map_bind, bind_assoc]
      refine bind_congr fun chosen => ?_
      cases chosen with
      | none => simp [addField_eq, ih, Entries.insertAll_append]
      | some chosen => simp [addChoice_eq, ih, Entries.insertAll_append]
    | _ => simp [addField_eq, ih, Entries.insertAll_append]

/-! ### Objects as a whole -/

@[simp]
theorem eval_const (context : Context) (v : Value) : eval context (.const v) = pure v := by
  rw [const, eval]
  rfl

theorem evalField_eq (context : Context) (name : String) (fields : List (String × Expr)) :
    evalField context name fields =
      match Entries.get? name fields with
      | some expr => some <$> expr.eval context
      | none => pure none := by
  induction fields with
  | nil => rw [evalField]; rfl
  | cons field fields ih =>
    obtain ⟨n, expr⟩ := field
    rw [evalField, ih, Entries.get?]
    split
    next => exact bind_pure_comp some (expr.eval context)
    next => rfl

/-- The value of an object where its guard and its list are not looked at: that of the field for
the whole object, or its fields. -/
def evalOnce (context : Context) (fields : List (String × Expr)) : Outcome ExprError Value := do
  match ← evalField context valueField fields with
  | some v => return v
  | none => return .object (← render context [] fields)

theorem result_evalOnce (context : Context) (fields : List (String × Expr)) :
    (evalOnce context fields).result =
      match Entries.get? valueField fields with
      | some expr => (expr.eval context).result
      | none => Value.object <$> (render context [] fields).result := by
  rw [evalOnce, evalField_eq]
  cases Entries.get? valueField fields with
  | some expr => simp
  | none => simp

/-- An object is null if its guard fails; otherwise it is evaluated once, or once for each item of
its list if it has one. -/
theorem eval_object (context : Context) (fields : List (String × Expr)) :
    eval context (.object fields) = (do
      if guardFails (← evalField context guardField fields) then return .null
      match ← evalField context repeatField fields with
      | some list =>
        let items := list.asList
        let values ← items.zipIdx.mapM fun (item, index) =>
          evalOnce (context.forItem item index items.length) fields
        return .array values
      | none => evalOnce context fields) := by
  rw [eval]
  rfl

/-- The object of some fields without its guard and its list. -/
def unsteered (fields : List (String × Expr)) : Expr :=
  .object (Entries.erase repeatField (Entries.erase guardField fields))

theorem allEntries_erase {name : String} (hname : FieldRole.ofName name = .marker)
    (context : Context) (fields : List (String × Expr)) :
    allEntries context (Entries.erase name fields) = allEntries context fields := by
  induction fields with
  | nil => rfl
  | cons field fields ih =>
    obtain ⟨n, expr⟩ := field
    have hcons : Entries.erase name ((n, expr) :: fields) =
        if n = name then Entries.erase name fields else (n, expr) :: Entries.erase name fields := by
      by_cases hn : n = name <;> simp [Entries.erase, hn]
    rw [hcons, allEntries_cons]
    split
    next hn =>
      have hadded : addedEntries context n expr = pure [] := by
        rw [addedEntries, hn, hname]
      simp [hadded, ih]
    next => rw [allEntries_cons, ih]

/-- A field that is no part of the result can be left out of an object. -/
theorem evalOnce_erase {name : String} (hname : FieldRole.ofName name = .marker)
    (hvalue : name ≠ valueField) (context : Context) (fields : List (String × Expr)) :
    evalOnce context (Entries.erase name fields) = evalOnce context fields := by
  simp only [evalOnce, evalField_eq, Entries.get?_erase, hvalue.symm, if_false, render_eq,
    allEntries_erase hname]

/-- Without its guard and its list an object is evaluated once. -/
theorem eval_unsteered (context : Context) (fields : List (String × Expr)) :
    eval context (unsteered fields) = evalOnce context fields := by
  have hfield (name : String) :
      Entries.get? name (Entries.erase repeatField (Entries.erase guardField fields)) =
        if name = repeatField ∨ name = guardField then none else Entries.get? name fields := by
    rw [Entries.get?_erase, Entries.get?_erase]
    grind
  rw [unsteered, eval_object]
  simp only [evalField_eq, hfield, true_or, or_true, if_true, pure_bind]
  -- Both fields are markers, so the value is the same without them.
  change evalOnce context (Entries.erase repeatField (Entries.erase guardField fields)) = _
  rw [evalOnce_erase (by decide) (by decide), evalOnce_erase (by decide) (by decide)]

/-- The guard of an object passes, if it has one. -/
def GuardPasses (context : Context) (fields : List (String × Expr)) : Prop :=
  ∀ guard, Entries.get? guardField fields = some guard →
    ∃ v, (guard.eval context).result = .ok v ∧ v.truthy = true

/-- The result of an object whose guard passes. -/
theorem result_eval_object {context : Context} {fields : List (String × Expr)}
    (hguard : GuardPasses context fields) :
    (eval context (.object fields)).result =
      match Entries.get? repeatField fields with
      | some list => do
        let items := (← (list.eval context).result).asList
        let values ← items.zipIdx.mapM fun item =>
          ((unsteered fields).eval (context.forItem item.1 item.2 items.length)).result
        return .array values
      | none => ((unsteered fields).eval context).result := by
  obtain ⟨guard, hresult, hpasses⟩ : ∃ guard,
      (evalField context guardField fields).result = .ok guard ∧ guardFails guard = false := by
    rw [evalField_eq]
    cases hget : Entries.get? guardField fields with
    | none => exact ⟨none, rfl, rfl⟩
    | some guard =>
      obtain ⟨v, hv, htruthy⟩ := hguard guard hget
      exact ⟨some v, by simp [hv], by simp [guardFails, htruthy]⟩
  rw [eval_object, Outcome.result_bind, hresult]
  change (if guardFails guard then pure .null else _ : Outcome ExprError Value).result = _
  rw [hpasses, evalField_eq]
  cases Entries.get? repeatField fields with
  | none =>
    rw [eval_unsteered]
    rfl
  | some list =>
    simp only [eval_unsteered, Bool.false_eq_true, if_false, bind_map_left, Outcome.result_bind,
      Outcome.result_mapM, Outcome.result_pure]
    rfl

end Expr

end AccessPolicy
