import AccessPolicy.Proofs.Expression.Objects
import AccessPolicy.Standard.Logging
import Mathlib.Data.List.ReduceOption

/-!
# How often guards are evaluated

An object that is evaluated by itself evaluates its guard once (`Expr.eval_object_eq_guarded`), and
so does an object that is the value of a field. Lists and choices look at the guard first, in order
to leave the object out, and evaluate an object that they keep with its guard again
(`Expr.attempt_object`). Values and errors do not show it, but every event of a guard that passes
appears twice. So an object has the same events wherever it stands exactly if its guard causes
none or does not pass (`Expr.guardedOnce_iff`).
-/

namespace AccessPolicy

namespace Outcome

variable {ε α β : Type}

/-- An outcome behind some events. -/
def after (events : List Event) (x : Outcome ε α) : Outcome ε α :=
  ⟨events ++ x.events, x.result⟩

theorem after_nil (x : Outcome ε α) : x.after [] = x := rfl

end Outcome

namespace Expr

variable {context : Context} {fields : List (String × Expr)} {guard : Expr}

/-! ### Objects by themselves -/

/-- The value of an object whose guard is evaluated once, and nothing if the guard keeps it out. -/
def evalGuarded (context : Context) (fields : List (String × Expr)) :
    Outcome ExprError (Option Value) := do
  if guardFails (← evalField context guardField fields) then return none
  return some (← eval context (.object (Entries.erase guardField fields)))

theorem get?_erase_guard (fields : List (String × Expr)) :
    Entries.get? guardField (Entries.erase guardField fields) = none := by
  rw [Entries.get?_erase, if_pos rfl]

/-- By itself an object evaluates its guard once, and it is null where the guard keeps it out. -/
theorem eval_object_eq_guarded (context : Context) (fields : List (String × Expr)) :
    eval context (.object fields) = (Option.getD · .null) <$> evalGuarded context fields := by
  have honce (context : Context) :
      evalOnce context (Entries.erase guardField fields) = evalOnce context fields :=
    evalOnce_erase (by decide) (by decide) context fields
  have hlist : Entries.get? repeatField (Entries.erase guardField fields) =
      Entries.get? repeatField fields := by
    rw [Entries.get?_erase, if_neg (by decide)]
  -- The guard is no part of the result, so the rest of the object is the same without it.
  rw [evalGuarded, eval_object, eval_object, map_bind]
  refine bind_congr fun guard => ?_
  simp only [evalField_eq, get?_erase_guard, hlist, honce, pure_bind]
  split
  next => rfl
  next hpasses =>
    simp only [bind_pure_comp, Functor.map_map, Option.getD_some, id_map']
    rfl

/-! ### Objects in lists and choices -/

/-- What a list makes of an item: its value, and nothing if it is an object that is kept out. -/
def attempt (context : Context) (item : Expr) : Outcome ExprError (Option Value) := do
  if ← item.isSkipped context then return none
  return some (← item.eval context)

/-- The events of a guard that are repeated when its object is evaluated: all if it passes. -/
def repeatedEvents (context : Context) (guard : Expr) : List Event :=
  match (guard.eval context).result with
  | .ok v => if v.truthy then (guard.eval context).events else []
  | .error _ => []

/-- A list evaluates the guard of an object that it keeps twice. -/
theorem attempt_object (hguard : Entries.get? guardField fields = some guard) :
    attempt context (.object fields) =
      (evalGuarded context fields).after (repeatedEvents context guard) := by
  rw [attempt, isSkipped, eval_object_eq_guarded, evalGuarded, repeatedEvents]
  simp only [evalField_eq, hguard]
  rcases guard.eval context with ⟨events, result⟩
  cases result with
  | error e => rfl
  | ok v =>
    cases hv : v.truthy with
    | false => simp [guardFails, hv, Outcome.after]
    | true =>
      -- The list only learns that the guard passes; the object by itself evaluates it again.
      simp [guardFails, hv, Outcome.after]

/-- The values of a list are what is made of its items. -/
theorem evalItems_eq (context : Context) (items : List Expr) :
    evalItems context items = List.reduceOption <$> items.mapM (attempt context) := by
  induction items with
  | nil =>
    rw [evalItems]
    rfl
  | cons item items ih =>
    rw [evalItems, List.mapM_cons, attempt, ih]
    simp only [bind_assoc, map_bind]
    refine bind_congr fun skipped => ?_
    cases skipped with
    | true => simp [List.reduceOption_cons_of_none]
    | false => simp [List.reduceOption_cons_of_some]

/-- A choice is the first of its branches whose value is not null. -/
theorem firstBranch_cons (context : Context) (branch : Expr) (rest : List Expr) :
    firstBranch context (branch :: rest) = (do
      match (← attempt context branch).filter (!·.isNull) with
      | some v => return some v
      | none => firstBranch context rest) := by
  rw [firstBranch, attempt, bind_assoc]
  refine bind_congr fun skipped => ?_
  cases skipped with
  | true => rfl
  | false =>
    simp only [Bool.false_eq_true, if_false, bind_assoc, pure_bind]
    refine bind_congr fun v => ?_
    cases hv : v.isNull with
    | true => simp [Option.filter, hv]
    | false => simp [Option.filter, hv]

theorem firstBranch_append (context : Context) (front back : List Expr) :
    firstBranch context (front ++ back) = (do
      match ← firstBranch context front with
      | some v => return some v
      | none => firstBranch context back) := by
  induction front with
  | nil =>
    rw [firstBranch]
    rfl
  | cons branch front ih =>
    rw [List.cons_append, firstBranch_cons, firstBranch_cons, bind_assoc]
    refine bind_congr fun chosen => ?_
    split
    next => rfl
    next => exact ih

/-! ### Places of objects -/

/-- The fields of an object among which one has the given outcome. -/
def amongFields (context : Context) (out : Fields) (front : List (String × Expr)) (name : String)
    (expr : Expr) (outcome : Outcome ExprError Value) (back : List (String × Expr)) :
    Outcome ExprError Fields := do
  let out ← render context out front
  let v ← outcome
  render context (addField out (FieldRole.ofName name) name expr v) back

/-- The values of a list among whose items one has the given outcome. -/
def amongItems (context : Context) (front : List Expr) (outcome : Outcome ExprError (Option Value))
    (back : List Expr) : Outcome ExprError (List Value) := do
  let values ← evalItems context front
  let v ← outcome
  let more ← evalItems context back
  return values ++ v.toList ++ more

/-- The value of a choice among whose branches one has the given outcome. -/
def amongBranches (context : Context) (front : List Expr)
    (outcome : Outcome ExprError (Option Value)) (back : List Expr) :
    Outcome ExprError (Option Value) := do
  match ← firstBranch context front with
  | some v => return some v
  | none =>
    match (← outcome).filter (!·.isNull) with
    | some v => return some v
    | none => firstBranch context back

theorem evalItems_among (context : Context) (front : List Expr) (item : Expr) (back : List Expr) :
    evalItems context (front ++ item :: back) =
      amongItems context front (attempt context item) back := by
  -- What is made of the item stands between what is made of the others.
  have hreduce (values : List (Option Value)) (v : Option Value) (more : List (Option Value)) :
      (values ++ v :: more).reduceOption =
        values.reduceOption ++ v.toList ++ more.reduceOption := by
    cases v <;> simp [List.reduceOption_append]
  simp only [amongItems, evalItems_eq, List.mapM_append, List.mapM_cons, map_bind, bind_assoc,
    bind_map_left, map_pure, pure_bind, hreduce]

theorem firstBranch_among (context : Context) (front : List Expr) (branch : Expr)
    (back : List Expr) :
    firstBranch context (front ++ branch :: back) =
      amongBranches context front (attempt context branch) back := by
  rw [firstBranch_append, amongBranches]
  refine bind_congr fun chosen => ?_
  cases chosen with
  | some v => rfl
  | none => exact firstBranch_cons context branch back

theorem render_append (context : Context) (out : Fields) (front back : List (String × Expr)) :
    render context out (front ++ back) = (do
      let out ← render context out front
      render context out back) := by
  simp only [render_eq, allEntries_append, map_bind, bind_map_left, bind_pure_comp,
    Entries.insertAll_append, Functor.map_map]

/-- An object that is the value of a field is evaluated by itself. -/
theorem render_among (context : Context) (out : Fields) (front : List (String × Expr))
    {name : String} (hname : FieldRole.ofName name ≠ .marker) (fields back : List (String × Expr)) :
    render context out (front ++ (name, .object fields) :: back) =
      amongFields context out front name (.object fields) (eval context (.object fields)) back := by
  rw [render_append, amongFields]
  refine bind_congr fun out => ?_
  rw [render]
  cases hrole : FieldRole.ofName name with
  | marker => exact absurd hrole hname
  | choice =>
    -- An object has no branches to choose from.
    rw [evalChoice_of_not_isArray rfl]
    rfl
  | _ => rfl

/-! ### Guards that are evaluated once -/

/-- Wherever an object stands, it acts like an outcome: like one outcome as the value of a field,
and like another one, with nothing for an object that is kept out, in a list or a choice. -/
structure ActsAs (context : Context) (fields : List (String × Expr))
    (alone : Outcome ExprError Value) (among : Outcome ExprError (Option Value)) : Prop where
  /-- As the value of a field that is part of the result. -/
  field (out : Fields) (front : List (String × Expr)) {name : String}
    (hname : FieldRole.ofName name ≠ .marker) (back : List (String × Expr)) :
    render context out (front ++ (name, .object fields) :: back) =
      amongFields context out front name (.object fields) alone back
  /-- As an item of a list. -/
  item (front back : List Expr) :
    evalItems context (front ++ .object fields :: back) = amongItems context front among back
  /-- As a branch of a choice. -/
  branch (front back : List Expr) :
    firstBranch context (front ++ .object fields :: back) = amongBranches context front among back

/-- An object acts like its own value, and in lists and choices like what is made of items. -/
theorem actsAs_attempt (context : Context) (fields : List (String × Expr)) :
    ActsAs context fields (eval context (.object fields)) (attempt context (.object fields)) where
  field out front _ hname back := render_among context out front hname fields back
  item front back := evalItems_among context front (.object fields) back
  branch front back := firstBranch_among context front (.object fields) back

/-- What an object acts like in lists causes the events of a list in which it stands alone. -/
theorem ActsAs.events_among {alone : Outcome ExprError Value}
    {among : Outcome ExprError (Option Value)} (h : ActsAs context fields alone among) :
    among.events = (evalItems context [.object fields]).events := by
  have hitems := h.item [] []
  rw [List.nil_append] at hitems
  rw [hitems]
  simp [amongItems, evalItems]

/-- An object acts like one whose guard is evaluated once. -/
def GuardedOnce (context : Context) (fields : List (String × Expr)) : Prop :=
  ActsAs context fields ((Option.getD · .null) <$> evalGuarded context fields)
    (evalGuarded context fields)

/-- Events are repeated exactly if there are some and the guard passes. -/
theorem repeatedEvents_eq_nil_iff (hguard : Entries.get? guardField fields = some guard) :
    repeatedEvents context guard = [] ↔
      (guard.eval context).events = [] ∨ ¬GuardPasses context fields := by
  have hpasses : GuardPasses context fields ↔
      ∃ v, (guard.eval context).result = .ok v ∧ v.truthy = true := by
    constructor
    · intro h
      exact h guard hguard
    · intro h other hother
      rwa [← Option.some.inj (hguard.symm.trans hother)]
  rw [hpasses, repeatedEvents]
  cases (guard.eval context).result with
  | error e => simp
  | ok v => cases hv : v.truthy <;> simp [hv]

/-- As the value of a field an object evaluates its guard once. As an item of a list or as a branch
of a choice it evaluates a guard that passes once more, with the same events again. So the guard is
evaluated once in all places exactly if it causes no events or does not pass. -/
theorem guardedOnce_iff (hguard : Entries.get? guardField fields = some guard) :
    ActsAs context fields ((Option.getD · .null) <$> evalGuarded context fields)
        ((evalGuarded context fields).after (repeatedEvents context guard)) ∧
      (GuardedOnce context fields ↔
        (guard.eval context).events = [] ∨ ¬GuardPasses context fields) := by
  -- What the object does by itself and in lists is both known from its guarded evaluation.
  have hacts : ActsAs context fields ((Option.getD · .null) <$> evalGuarded context fields)
      ((evalGuarded context fields).after (repeatedEvents context guard)) := by
    rw [← eval_object_eq_guarded, ← attempt_object hguard]
    exact actsAs_attempt context fields
  refine ⟨hacts, ?_⟩
  rw [← repeatedEvents_eq_nil_iff hguard]
  constructor
  · intro honce
    -- The list that the object stands in alone has the events of both.
    have hevents := hacts.events_among.trans (ActsAs.events_among honce).symm
    exact List.append_left_eq_self.1 hevents
  · intro hnone
    rwa [hnone, Outcome.after_nil] at hacts

/-- A guard that logs its value and does not pass. -/
theorem guardedOnce_iff_kept_out :
    let context : Context := {
      now := ⟨0, 0, by decide, by decide⟩, sample := .zero false, bindings := [("on", .ofNat 0)] }
    ∃ log, Standard.logPipe ["warn"] = .ok log ∧
      let guard : Expr := .text (.single (.lookup ⟨"path", "on"⟩ (.path none) [log]))
      let fields := [("k", Expr.const (.ofNat 1)), ("@if", guard)]
      Entries.get? guardField fields = some guard ∧
        (guard.eval context).events = [.message .warn "0"] ∧ GuardedOnce context fields := by
  intro context
  refine ⟨_, rfl, ?_⟩
  intro guard fields
  have hguard : Entries.get? guardField fields = some guard := rfl
  have hfails : ¬GuardPasses context fields := by
    intro hpasses
    obtain ⟨v, hv, htruthy⟩ := hpasses guard hguard
    have hzero : (guard.eval context).result = .ok (.ofNat 0) := rfl
    rw [← Except.ok.inj (hzero.symm.trans hv)] at htruthy
    exact absurd htruthy (by decide)
  exact ⟨hguard, rfl, (guardedOnce_iff hguard).2.2 (.inr hfails)⟩

/-- A guard that logs its value and passes: once as the value of a field, twice elsewhere. -/
theorem not_guardedOnce_logged :
    let context : Context := {
      now := ⟨0, 0, by decide, by decide⟩, sample := .zero false,
      bindings := [("on", .bool true)] }
    ∃ log, Standard.logPipe [] = .ok log ∧
      let guard : Expr := .text (.single (.lookup ⟨"path", "on"⟩ (.path none) [log]))
      let object := [("@if", guard), ("k", Expr.const (.ofNat 1))]
      (guard.eval context).events = [.message .info "true"] ∧
        (render context [] [("out", .object object)]).events = [.message .info "true"] ∧
        (evalItems context [.object object]).events =
          [.message .info "true", .message .info "true"] ∧
        (firstBranch context [.object object]).events =
          [.message .info "true", .message .info "true"] ∧
        ¬GuardedOnce context object := by
  intro context
  refine ⟨_, rfl, ?_⟩
  intro guard object
  -- Evaluated once, the guard logs once, but the list logs twice.
  have hlist : (evalItems context [.object object]).events =
      [.message .info "true", .message .info "true"] := rfl
  refine ⟨rfl, rfl, hlist, rfl, ?_⟩
  intro honce
  have honly : (evalGuarded context object).events = [.message .info "true"] := rfl
  have hevents := ActsAs.events_among honce
  rw [hlist, honly] at hevents
  exact absurd hevents (by decide)

end Expr

end AccessPolicy
