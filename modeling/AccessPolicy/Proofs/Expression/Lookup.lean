import AccessPolicy.Proofs.Expression.Engine
import AccessPolicy.Proofs.Expression.Template
import AccessPolicy.Proofs.Trace
import AccessPolicy.Standard.Operators

/-!
# Looking up keys

A segment of a template looks up its key with a handler that was found when the template was read,
a condition with one that may be missing, and an engine that is asked for the value of a key finds
the handler at once. Each of them puts the keys of the context first by itself. They agree
(`Engine.eval_reference_eq_keyValue`) but for keys that only the context knows: these have a value
and conditions test it, while a template with them cannot be read.
-/

namespace AccessPolicy

/-! ### Segments with a key alone -/

/-- A segment without stages is read by its key. -/
theorem Vocabulary.readSegment_of_no_stages (vocabulary : Vocabulary) {segment : List Char}
    (h : '|' ∉ segment) :
    vocabulary.readSegment segment = Key.read (String.ofList segment) >>= fun key =>
      (vocabulary.keys.find? key).elim (.error (.keyNotFound key.toText)) fun handler =>
        .ok (.lookup key handler []) := by
  -- Cutting at bars leaves the key as the only piece.
  rw [readSegment, List.splitOn_eq_singleton h]
  refine bind_congr fun key => ?_
  cases vocabulary.keys.find? key <;> rfl

namespace Library

/-- The key of a text is known to the context but not to the library. -/
def LocalOnly (library : Library) (context : Context) (text : String) : Prop :=
  ∃ key handler, Key.read text = .ok key ∧ context.localHandler? key = some handler ∧
    library.keys.find? key = none

variable {context : Context} {text : String}

/-- A template that is a key alone is read by this key. -/
theorem readTemplate_reference (library : Library) (hbar : '|' ∉ text.toList)
    (hbrace : '\x7d' ∉ text.toList) :
    library.readTemplate ("$\x7b" ++ text ++ "\x7d") = (Key.read text >>= fun key =>
      (library.keys.find? key).elim (.error (.keyNotFound key.toText)) fun handler =>
        .ok (.lookup key handler [])).map .single := by
  have htext : ("$\x7b" ++ text ++ "\x7d").toList = '$' :: '\x7b' :: (text.toList ++ ['\x7d']) := by
    simp
  rw [library.readTemplate_enclosed htext hbrace, library.readSegment_of_no_stages hbar,
    String.ofList_toList]

variable {library : Library}

/-- The value of a key is that of the first handler among those of the context and the library. -/
theorem keyValue_of_read {key : Key} (hkey : Key.read text = .ok key) :
    library.keyValue context text =
      ((context.localHandler? key).or (library.keys.find? key)).elim
        (.error (.keyNotFound key.toText)) fun handler =>
          .ok (handler.value key context.toScope) := by
  rw [keyValue, hkey]
  simp only [bind, Except.bind]
  cases (context.localHandler? key).or (library.keys.find? key) <;> rfl

/-- Unless the context alone knows the key of a text, the template with this key has the value of
the key or fails with the same error. -/
theorem evalText_reference (hbar : '|' ∉ text.toList) (hbrace : '\x7d' ∉ text.toList)
    (h : ¬library.LocalOnly context text) :
    library.evalText context ("$\x7b" ++ text ++ "\x7d") =
      .ofExcept (library.keyValue context text) := by
  have hread := library.readTemplate_reference hbar hbrace
  cases hkey : Key.read text with
  | error e =>
    rw [hkey] at hread
    rw [evalText, hread, keyValue, hkey]
    rfl
  | ok key =>
    rw [keyValue_of_read hkey]
    rw [hkey] at hread
    cases hglobal : library.keys.find? key with
    | some handler =>
      -- The template has the handler of the library at hand, where the context has none.
      simp only [bind, Except.bind, hglobal] at hread
      rw [evalText_of_ok hread]
      cases hlocal : context.localHandler? key with
      | some localHandler => simp only [Template.run, Part.run, hlocal]; rfl
      | none => simp only [Template.run, Part.run, hlocal]; rfl
    | none =>
      -- The context does not know the key either.
      cases hlocal : context.localHandler? key with
      | some handler => exact absurd ⟨key, handler, hkey, hlocal, hglobal⟩ h
      | none =>
        simp only [bind, Except.bind, hglobal] at hread
        rw [evalText, hread]
        rfl

/-- A key that the context alone knows has a value, and the template with it cannot be read. -/
theorem LocalOnly.evalText_reference (hbar : '|' ∉ text.toList) (hbrace : '\x7d' ∉ text.toList)
    (h : library.LocalOnly context text) :
    ∃ key v, Key.read text = .ok key ∧ library.keyValue context text = .ok v ∧
      library.evalText context ("$\x7b" ++ text ++ "\x7d") = .fail (.keyNotFound key.toText) := by
  obtain ⟨key, handler, hkey, hlocal, hglobal⟩ := h
  refine ⟨key, handler.value key context.toScope, hkey, ?_, ?_⟩
  · rw [keyValue_of_read hkey, hlocal]
    rfl
  · rw [evalText, library.readTemplate_reference hbar hbrace, hkey]
    simp only [bind, Except.bind, hglobal]
    rfl

end Library

/-! ### Conditions -/

/-- The parts of a condition are what a library has for them. -/
structure Library.Resolves (library : Library) (condition : Condition) (ready : ReadyCondition) :
    Prop where
  /-- The condition is kept. -/
  condition_eq : ready.condition = condition
  /-- The key is that of its text. -/
  key_eq : Key.read condition.key = .ok ready.key
  /-- The handler is that of the key, if there is one. -/
  handler_eq : ready.handler = library.keys.find? ready.key
  /-- The test is that of the operator. -/
  test_eq : library.conditions.find? condition.operator = some ready.test
  /-- The operands are the templates of their texts. -/
  operands_eq : condition.operands.mapM library.readTemplate = .ok ready.operands

namespace Library

variable {library : Library} {condition : Condition} {ready : ReadyCondition}

theorem readCondition_eq_ok_iff :
    library.readCondition condition = .ok ready ↔ library.Resolves condition ready := by
  constructor
  · intro h
    unfold readCondition at h
    cases htest : library.conditions.find? condition.operator with
    | none => rw [htest] at h; cases h
    | some test =>
      rw [htest] at h
      obtain ⟨key, hkey, h⟩ := Decision.bind_eq_ok_iff.1 h
      obtain ⟨operands, hoperands, h⟩ := Decision.bind_eq_ok_iff.1 h
      obtain rfl := Except.ok.inj h
      exact ⟨rfl, hkey, rfl, htest, hoperands⟩
  · rintro ⟨rfl, hkey, hhandler, htest, hoperands⟩
    rw [readCondition, htest, hkey, hoperands]
    change Except.ok { ready with handler := library.keys.find? ready.key } = _
    rw [← hhandler]

/-- A condition on the text of a key is read if its operator is known and its operands can be
read, whoever knows the key. -/
theorem exists_readCondition_iff {key : Key} (hkey : Key.read condition.key = .ok key) :
    (∃ ready, library.readCondition condition = .ok ready) ↔
      (∃ test, library.conditions.find? condition.operator = some test) ∧
        ∀ operand ∈ condition.operands,
          ∃ template, library.readTemplate operand = .ok template := by
  rw [← exists_mapM_eq_ok_iff]
  constructor
  · rintro ⟨ready, h⟩
    have hresolves := readCondition_eq_ok_iff.1 h
    exact ⟨⟨_, hresolves.test_eq⟩, _, hresolves.operands_eq⟩
  · rintro ⟨⟨test, htest⟩, operands, hoperands⟩
    -- A handler that the library does not have is left out and not an error.
    exact ⟨⟨condition, key, library.keys.find? key, test, operands⟩,
      readCondition_eq_ok_iff.2 ⟨rfl, hkey, rfl, htest, hoperands⟩⟩

/-- A condition tests its operator against the value of its key and the values of its operands. -/
theorem Resolves.result_eval (h : library.Resolves condition ready) (context : Context) :
    ∃ values,
      List.Forall₂ (fun operand v => (library.evalText context operand).result = .ok v)
        condition.operands values ∧
      (ready.eval context).result = (library.keyValue context condition.key).map fun v =>
        ready.test v (.array values) := by
  refine ⟨ready.operands.map fun template => (template.run context).1, ?_, ?_⟩
  · rw [List.forall₂_map_right_iff]
    refine (mapM_eq_ok_iff.1 h.operands_eq).imp fun operand template hread => ?_
    rw [evalText_of_ok hread]
  · -- Templates that were read always have values, so an error can only come from the key.
    have hvalues : (ready.operands.mapM (Template.eval context)).result =
        .ok (ready.operands.map fun template => (template.run context).1) := by
      rw [Outcome.result_mapM, mapM_eq_ok_iff, List.forall₂_map_right_iff, List.forall₂_same]
      exact fun template _ => rfl
    rw [ReadyCondition.eval, keyValue_of_read h.key_eq, h.handler_eq]
    cases (context.localHandler? ready.key).or (library.keys.find? ready.key) with
    | none => rfl
    | some handler =>
      change (_ >>= _ : Outcome ExprError Bool).result = _
      rw [Outcome.result_bind, hvalues]
      rfl

end Library

namespace Engine

/-- However an engine was used before and whatever keys the context has: unless the context alone
knows the key of a text, the template with just this key has the value that the engine has for the
key, or fails with the same error. A key that the context alone knows has a value, and only its
template fails. A condition on a key with a value can be read if its operator is known and its
operands can be read; it tests its operator against this value and the values of its operands, and
where the key has no value it fails with the error of the key. -/
theorem eval_reference_eq_keyValue (library : Library) (capacity : Nat) (calls : List Call)
    (context : Context) {text : String} (hbar : '|' ∉ text.toList) (hbrace : '\x7d' ∉ text.toList) :
    let engine := ({ toLibrary := library, capacity } : Engine).after calls
    let reference := "$\x7b" ++ text ++ "\x7d"
    (¬engine.LocalOnly context text →
      (engine.eval context reference).1 = .ofExcept (engine.keyValue context text)) ∧
    (engine.LocalOnly context text →
      ∃ key v, Key.read text = .ok key ∧ engine.keyValue context text = .ok v ∧
        (engine.eval context reference).1 = .fail (.keyNotFound key.toText)) ∧
    ∀ operator operands,
      (∀ v, engine.keyValue context text = .ok v →
        ((∃ ready, engine.readCondition ⟨operator, text, operands⟩ = .ok ready) ↔
          (∃ test, engine.conditions.find? operator = some test) ∧
            ∀ operand ∈ operands, ∃ template, engine.readTemplate operand = .ok template)) ∧
      ∀ ready, engine.readCondition ⟨operator, text, operands⟩ = .ok ready →
        engine.conditions.find? operator = some ready.test ∧
        ∃ values,
          List.Forall₂ (fun operand v => (engine.eval context operand).1.result = .ok v)
            operands values ∧
          (ready.eval context).result = (engine.keyValue context text).map fun v =>
            ready.test v (.array values) := by
  intro engine reference
  have hlibrary : engine.toLibrary = library := toLibrary_after library capacity calls
  have heval (t : String) : (engine.eval context t).1 = library.evalText context t :=
    eval_after_fst library capacity calls context t
  -- Calls leave the library as it is, so it answers for the engine.
  simp only [hlibrary, heval]
  refine ⟨Library.evalText_reference hbar hbrace, fun h => h.evalText_reference hbar hbrace,
    fun operator operands => ⟨fun v hv => ?_, fun ready hready => ?_⟩⟩
  · obtain ⟨key, hkey, -⟩ := Decision.bind_eq_ok_iff.1 hv
    exact Library.exists_readCondition_iff hkey
  · have hresolves := Library.readCondition_eq_ok_iff.1 hready
    exact ⟨hresolves.test_eq, hresolves.result_eval context⟩

/-- A key that the context has in front of the library, with spaces around its text, and a key
that the context alone has. -/
theorem eval_reference_eq_keyValue_local :
    let library : Library := ⟨⟨.ofHandlers [(⟨"user", "name"⟩, .const (.string "Ann"))],
      .chain []⟩, .ofEntries [("StringEquals", Standard.single Standard.sameText)], .chain []⟩
    let moment : Moment := ⟨⟨0, 0, by decide, by decide⟩, .zero false⟩
    let context : Context :=
      { moment with keys := some (.ofHandlers [(⟨"user", "*"⟩, .const (.string "Bob"))]) }
    let engine := ({ toLibrary := library } : Engine).after [.compile "$\x7buser:name\x7d"]
    let holds (key : String) := ∃ ready,
      engine.readCondition ⟨"StringEquals", key, ["Bob"]⟩ = .ok ready ∧
        (ready.eval context).result = .ok true
    ¬engine.LocalOnly context " user:name " ∧
      (engine.eval context "$\x7b user:name \x7d").1.result = .ok (.string "Bob") ∧
      holds " user:name " ∧
      engine.LocalOnly context "user:role" ∧
      (engine.eval context "$\x7buser:role\x7d").1.result = .error (.keyNotFound "user:role") ∧
      holds "user:role" := by
  intro library moment context engine holds
  have hname : Key.read " user:name " = .ok ⟨"user", "name"⟩ :=
    Key.read_eq_ok_iff.2 (by decide +kernel)
  have hrole : Key.read "user:role" = .ok ⟨"user", "role"⟩ :=
    Key.read_eq_ok_iff.2 (by decide +kernel)
  have hlibrary : engine.toLibrary = library := toLibrary_after ..
  have hoperand : library.readTemplate "Bob" = .ok (.single (.const (.string "Bob"))) :=
    library.readTemplate_literal rfl
  have hvalue : engine.keyValue context " user:name " = .ok (.string "Bob") := by
    rw [hlibrary, Library.keyValue_of_read hname]
    rfl
  have hlocal : engine.keyValue context "user:role" = .ok (.string "Bob") := by
    rw [hlibrary, Library.keyValue_of_read hrole]
    rfl
  have hknown : ¬engine.LocalOnly context " user:name " := by
    rintro ⟨key, handler, hkey, -, hglobal⟩
    obtain rfl := Except.ok.inj (hname.symm.trans hkey)
    rw [hlibrary] at hglobal
    cases hglobal
  have hunknown : engine.LocalOnly context "user:role" :=
    ⟨_, .const (.string "Bob"), hrole, rfl, by rw [hlibrary]; rfl⟩
  -- A condition on a text with this value can be read, and holds.
  have hholds {text : String} (hbar : '|' ∉ text.toList) (hbrace : '\x7d' ∉ text.toList)
      (hv : engine.keyValue context text = .ok (.string "Bob")) : holds text := by
    obtain ⟨-, -, hcondition⟩ := eval_reference_eq_keyValue library 1000
      [.compile "$\x7buser:name\x7d"] context hbar hbrace
    obtain ⟨hread, htest⟩ := hcondition "StringEquals" ["Bob"]
    have hoperands : ∀ operand ∈ ["Bob"],
        ∃ template, engine.readTemplate operand = .ok template := by
      rw [hlibrary]
      exact List.forall_mem_singleton.2 ⟨_, hoperand⟩
    obtain ⟨ready, hready⟩ := (hread _ hv).2 ⟨⟨_, by rw [hlibrary]; rfl⟩, hoperands⟩
    obtain ⟨hfound, values, hvalues, hresult⟩ := htest ready hready
    obtain ⟨v, rest, hbob, hrest, rfl⟩ := List.forall₂_cons_left_iff.1 hvalues
    obtain rfl := List.forall₂_nil_left_iff.1 hrest
    rw [eval_after_fst, Library.evalText_of_ok hoperand] at hbob
    obtain rfl := Except.ok.inj hbob
    rw [hlibrary] at hfound
    rw [hv, ← Option.some.inj hfound] at hresult
    exact ⟨ready, hready, hresult.trans rfl⟩
  have hnameBar : '|' ∉ " user:name ".toList := by decide +kernel
  have hnameBrace : '\x7d' ∉ " user:name ".toList := by decide +kernel
  have hroleBar : '|' ∉ "user:role".toList := by decide +kernel
  have hroleBrace : '\x7d' ∉ "user:role".toList := by decide +kernel
  refine ⟨hknown, ?_, hholds hnameBar hnameBrace hvalue, hunknown, ?_,
    hholds hroleBar hroleBrace hlocal⟩
  · have hreply := eval_reference_eq_keyValue library 1000 [.compile "$\x7buser:name\x7d"]
      context hnameBar hnameBrace
    exact (congrArg Outcome.result (hreply.1 hknown)).trans hvalue
  · have hreply := eval_reference_eq_keyValue library 1000 [.compile "$\x7buser:name\x7d"]
      context hroleBar hroleBrace
    obtain ⟨key, v, hkey, -, hfail⟩ := hreply.2.1 hunknown
    obtain rfl := Except.ok.inj (hrole.symm.trans hkey)
    exact congrArg Outcome.result hfail

end Engine

end AccessPolicy
