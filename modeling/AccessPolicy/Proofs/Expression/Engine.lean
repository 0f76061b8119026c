import AccessPolicy.Expression.Engine

/-!
# Engines over time

What an engine is asked over time (`Engine.Call`): to evaluate and to compile texts, to read and
test what does not go through its templates, and to forget these. It keeps each template under
the text that the template was read from (`Engine.Faithful`) and no more of them than it has room
for, so every reply is what the library alone would give (`Engine.call_fst`).
-/

namespace AccessPolicy

/-- The value of a text that is read for this evaluation alone. -/
def Library.evalText (library : Library) (context : Context) (text : String) :
    Outcome ExprError Value :=
  match library.readTemplate text with
  | .ok template => template.eval context
  | .error e => .fail e

/-- A text that can be read has the value of its template, with the events of it. -/
theorem Library.evalText_of_ok {library : Library} {text : String} {template : Template}
    (h : library.readTemplate text = .ok template) (context : Context) :
    library.evalText context text =
      ⟨(template.run context).2, .ok (template.run context).1⟩ := by
  rw [evalText, h]
  rfl

namespace Engine

variable {engine : Engine} {text : String}

/-- Each template is kept under a text that it was read from. -/
def Faithful (engine : Engine) : Prop :=
  ∀ text template, Entries.get? text engine.templates = some template →
    engine.readTemplate text = .ok template

/-- An engine is sound if it is faithful and keeps no more templates than it has room for. -/
structure Sound (engine : Engine) : Prop where
  /-- The templates are those of their texts. -/
  faithful : engine.Faithful
  /-- There is room for the templates. -/
  size_le : engine.size ≤ engine.capacity

/-- An engine without templates is sound. -/
theorem sound_new (library : Library) (capacity : Nat) :
    ({ toLibrary := library, capacity } : Engine).Sound where
  faithful text template found := by
    simp [Entries.get?] at found
  size_le := Nat.zero_le _

/-- Forgetting the templates leaves a sound engine. -/
theorem sound_clear (engine : Engine) : engine.clear.Sound :=
  sound_new engine.toLibrary engine.capacity

/-! ### Compiling -/

/-- A faithful engine gives the template that its library reads. -/
theorem compile_fst (h : engine.Faithful) (text : String) :
    (engine.compile text).1 = engine.readTemplate text := by
  unfold compile
  split
  next template found => exact (h text template found).symm
  next =>
    cases engine.readTemplate text with
    | ok template => rfl
    | error e => rfl

/-- A text that cannot be read leaves the engine as it is. -/
theorem compile_of_error (h : engine.Faithful) {e : ExprError}
    (hread : engine.readTemplate text = .error e) : engine.compile text = (.error e, engine) := by
  unfold compile
  split
  next template found => cases hread.symm.trans (h text template found)
  next => rw [hread]

@[simp]
theorem toLibrary_keep (engine : Engine) (text : String) (template : Template) :
    (engine.keep text template).toLibrary = engine.toLibrary := by
  unfold keep
  split <;> rfl

@[simp]
theorem capacity_keep (engine : Engine) (text : String) (template : Template) :
    (engine.keep text template).capacity = engine.capacity := by
  unfold keep
  split <;> rfl

/-- A template may be kept under the text that it was read from. -/
theorem Sound.keep (h : engine.Sound) {template : Template}
    (hread : engine.readTemplate text = .ok template) : (engine.keep text template).Sound := by
  unfold Engine.keep
  split
  next => exact h
  next hroom =>
    -- Where there is no room left, the template goes into an engine without templates.
    have hkept : ({ engine with templates := if engine.templates.length < engine.capacity then
        engine.templates else [] } : Engine).Faithful := by
      split
      next => exact h.faithful
      next => exact (sound_clear engine).faithful
    refine ⟨fun other found hfound => ?_, ?_⟩
    · by_cases same : other = text
      · subst same
        rw [Entries.get?_insert_self] at hfound
        rwa [← Option.some.inj hfound]
      · rw [Entries.get?_insert_of_ne same] at hfound
        exact hkept other found hfound
    · refine Nat.le_trans (Entries.length_insert_le _ _ _) ?_
      change _ + 1 ≤ engine.capacity
      split
      next hlength => exact hlength
      next => exact Nat.one_le_iff_ne_zero.2 hroom

/-- Compiling changes neither the library nor the room of an engine, and keeps it sound. -/
theorem Sound.compile (h : engine.Sound) (text : String) :
    (engine.compile text).2.Sound ∧ (engine.compile text).2.toLibrary = engine.toLibrary ∧
      (engine.compile text).2.capacity = engine.capacity := by
  unfold Engine.compile
  split
  next => exact ⟨h, rfl, rfl⟩
  next =>
    cases hread : engine.readTemplate text with
    | ok template => exact ⟨h.keep hread, toLibrary_keep .., capacity_keep ..⟩
    | error e => exact ⟨h, rfl, rfl⟩

/-! ### Evaluating -/

/-- Evaluating a text compiles it. -/
theorem eval_snd (engine : Engine) (context : Context) (text : String) :
    (engine.eval context text).2 = (engine.compile text).2 := by
  unfold eval
  split
  next compiled => rw [compiled]
  next compiled => rw [compiled]

/-- A faithful engine evaluates a text as its library does. -/
theorem eval_fst (h : engine.Faithful) (context : Context) (text : String) :
    (engine.eval context text).1 = engine.evalText context text := by
  have hcompile := compile_fst h text
  unfold eval Library.evalText
  split
  next compiled =>
    rw [compiled] at hcompile
    rw [← hcompile]
  next compiled =>
    rw [compiled] at hcompile
    rw [← hcompile]

/-! ### Calls -/

/-- What an engine can be asked for. -/
inductive Call where
  /-- The value of a text. -/
  | eval (context : Context) (text : String)
  /-- The template of a text. -/
  | compile (text : String)
  /-- The expression of a document. -/
  | readTree (document : Value)
  /-- Whether conditions hold. -/
  | testConditions (context : Context) (conditions : List Condition)
  /-- The value of a key. -/
  | keyValue (context : Context) (key : String)
  /-- To forget its templates. -/
  | clear

/-- What an engine replies. -/
inductive Reply where
  /-- The value of a text. -/
  | value (outcome : Outcome ExprError Value)
  /-- The template of a text. -/
  | template (result : Except ExprError Template)
  /-- The expression of a document. -/
  | tree (result : Except ExprError Expr)
  /-- Whether conditions hold. -/
  | truth (outcome : Outcome ExprError Bool)
  /-- The value of a key. -/
  | key (result : Except ExprError Value)
  /-- Nothing. -/
  | cleared

/-- What a call gives, and the engine after it. -/
def call (engine : Engine) : Call → Reply × Engine
  | .eval context text =>
    let (outcome, engine) := engine.eval context text
    (.value outcome, engine)
  | .compile text =>
    let (result, engine) := engine.compile text
    (.template result, engine)
  | .readTree document => (.tree (engine.readTree document), engine)
  | .testConditions context conditions =>
    (.truth (engine.testConditions context conditions), engine)
  | .keyValue context key => (.key (engine.keyValue context key), engine)
  | .clear => (.cleared, engine.clear)

/-- What a library by itself gives for a call. -/
def Call.afresh (library : Library) : Call → Reply
  | .eval context text => .value (library.evalText context text)
  | .compile text => .template (library.readTemplate text)
  | .readTree document => .tree (library.readTree document)
  | .testConditions context conditions => .truth (library.testConditions context conditions)
  | .keyValue context key => .key (library.keyValue context key)
  | .clear => .cleared

/-- The engine after calls one after the other. -/
def after (engine : Engine) (calls : List Call) : Engine :=
  calls.foldl (fun engine call => (engine.call call).2) engine

/-- A faithful engine replies what its library gives. -/
theorem call_fst (h : engine.Faithful) (call : Call) :
    (engine.call call).1 = call.afresh engine.toLibrary := by
  cases call with
  | eval context text => exact congrArg Reply.value (eval_fst h context text)
  | compile text => exact congrArg Reply.template (compile_fst h text)
  | _ => rfl

/-- A call changes neither the library nor the room of an engine, and keeps it sound. -/
theorem Sound.call (h : engine.Sound) (call : Call) :
    (engine.call call).2.Sound ∧ (engine.call call).2.toLibrary = engine.toLibrary ∧
      (engine.call call).2.capacity = engine.capacity := by
  cases call with
  | eval context text =>
    change (engine.eval context text).2.Sound ∧ (engine.eval context text).2.toLibrary = _ ∧
      (engine.eval context text).2.capacity = _
    rw [eval_snd]
    exact h.compile text
  | compile text => exact h.compile text
  | clear => exact ⟨sound_clear engine, rfl, rfl⟩
  | _ => exact ⟨h, rfl, rfl⟩

/-- Calls change neither the library nor the room of an engine, and keep it sound. -/
theorem Sound.after (h : engine.Sound) (calls : List Call) :
    (engine.after calls).Sound ∧ (engine.after calls).toLibrary = engine.toLibrary ∧
      (engine.after calls).capacity = engine.capacity := by
  induction calls generalizing engine with
  | nil => exact ⟨h, rfl, rfl⟩
  | cons call calls ih =>
    obtain ⟨hsound, hlibrary, hcapacity⟩ := h.call call
    obtain ⟨hafter, hafterLibrary, hafterCapacity⟩ := ih hsound
    exact ⟨hafter, hafterLibrary.trans hlibrary, hafterCapacity.trans hcapacity⟩

/-! ### Engines after any calls -/

section After

variable (library : Library) (capacity : Nat) (calls : List Call)

theorem toLibrary_after :
    (({ toLibrary := library, capacity } : Engine).after calls).toLibrary = library :=
  ((sound_new library capacity).after calls).2.1

theorem compile_after_fst (text : String) :
    ((({ toLibrary := library, capacity } : Engine).after calls).compile text).1 =
      library.readTemplate text := by
  rw [compile_fst ((sound_new library capacity).after calls).1.faithful, toLibrary_after]

theorem eval_after_fst (context : Context) (text : String) :
    ((({ toLibrary := library, capacity } : Engine).after calls).eval context text).1 =
      library.evalText context text := by
  rw [eval_fst ((sound_new library capacity).after calls).1.faithful, toLibrary_after]

end After

end Engine

end AccessPolicy
