import AccessPolicy.Proofs.Decision.Session
import AccessPolicy.Proofs.Expression.Engine
import AccessPolicy.Proofs.Expression.Template

/-!
# Loading does not depend on kept templates

Documents are read by an engine, which keeps templates. A reading is blind to them if it comes to
the same result for all sound engines of a library (`Compiler.Blind`). Everything that reads
documents is built from readings that are, so the sources that come of documents are the same
whatever the engine has read before and however much it keeps (`PolicySource.blind_ofValues`).
Decisions read nothing, so they do not depend on the room for templates at all
(`Engine.eval_after_calls`).
-/

namespace AccessPolicy

namespace Compiler

variable {α β : Type}

/-- A reading that does not depend on the templates that the engine keeps. -/
structure Blind (x : Compiler α) : Prop where
  /-- The result depends on the library alone. -/
  result_eq {engine other : Engine} : engine.Sound → other.Sound →
    engine.toLibrary = other.toLibrary → (x engine).map (·.1) = (x other).map (·.1)
  /-- The engine stays sound. -/
  sound {engine after : Engine} {a : α} : engine.Sound → x engine = .ok (a, after) →
    after.Sound ∧ after.toLibrary = engine.toLibrary

/-- A reading that leaves the engine alone and looks at its library only is blind. -/
theorem blind_ofLibrary (f : Library → Except ExprError α) : (ofLibrary f).Blind where
  result_eq {engine other} _ _ hlibrary := by
    simp only [ofLibrary]
    rw [hlibrary]
    cases f other.toLibrary <;> rfl
  sound {engine after a} h run := by
    simp only [ofLibrary] at run
    cases hf : f engine.toLibrary with
    | error e =>
      rw [hf] at run
      cases run
    | ok b =>
      rw [hf] at run
      cases run
      exact ⟨h, rfl⟩

theorem blind_pure (a : α) : (pure a : Compiler α).Blind where
  result_eq _ _ _ := rfl
  sound h run := by
    cases run
    exact ⟨h, rfl⟩

theorem blind_throw (e : PolicyError) : (throw e : Compiler α).Blind where
  result_eq _ _ _ := rfl
  sound _ run := by cases run

theorem Blind.bind {x : Compiler α} {f : α → Compiler β} (hx : x.Blind)
    (hf : ∀ a, (f a).Blind) : (x >>= f).Blind where
  result_eq {engine other} h hother hlibrary := by
    have hfirst := hx.result_eq h hother hlibrary
    change ((x engine).bind fun p => f p.1 p.2).map (·.1) =
      ((x other).bind fun p => f p.1 p.2).map (·.1)
    cases hrun : x engine with
    | error e =>
      cases hrunOther : x other with
      | error e' =>
        rw [hrun, hrunOther] at hfirst
        obtain rfl : e = e' := Except.error.inj hfirst
        rfl
      | ok p =>
        rw [hrun, hrunOther] at hfirst
        cases hfirst
    | ok p =>
      cases hrunOther : x other with
      | error e =>
        rw [hrun, hrunOther] at hfirst
        cases hfirst
      | ok q =>
        rw [hrun, hrunOther] at hfirst
        have hsame : p.1 = q.1 := Except.ok.inj hfirst
        obtain ⟨hsound, hkept⟩ := hx.sound h hrun
        obtain ⟨hsoundOther, hkeptOther⟩ := hx.sound hother hrunOther
        change (f p.1 p.2).map (·.1) = (f q.1 q.2).map (·.1)
        rw [hsame]
        exact (hf q.1).result_eq hsound hsoundOther (hkept.trans (hlibrary.trans hkeptOther.symm))
  sound {engine after b} h run := by
    change ((x engine).bind fun p => f p.1 p.2) = .ok (b, after) at run
    cases hrun : x engine with
    | error e =>
      rw [hrun] at run
      cases run
    | ok p =>
      rw [hrun] at run
      obtain ⟨hsound, hlibrary⟩ := hx.sound h hrun
      obtain ⟨hafter, hkept⟩ := (hf p.1).sound hsound run
      exact ⟨hafter, hkept.trans hlibrary⟩

theorem Blind.mapM {f : α → Compiler β} (hf : ∀ a, (f a).Blind) (l : List α) :
    (l.mapM f).Blind := by
  induction l with
  | nil => exact blind_pure []
  | cons a l ih =>
    rw [List.mapM_cons]
    exact (hf a).bind fun b => ih.bind fun bs => blind_pure (b :: bs)

/-- The pattern of a text is blind: an engine gives the template that its library reads. -/
theorem blind_pattern (source : String) : (pattern source).Blind where
  result_eq {engine other} h hother hlibrary := by
    have hcompile : (engine.compile source).1 = (other.compile source).1 := by
      rw [Engine.compile_fst h.faithful, Engine.compile_fst hother.faithful, hlibrary]
    unfold pattern
    generalize engine.compile source = compiled at hcompile
    generalize other.compile source = compiledOther at hcompile
    obtain ⟨result, after⟩ := compiled
    obtain ⟨resultOther, afterOther⟩ := compiledOther
    obtain rfl : result = resultOther := hcompile
    cases result <;> rfl
  sound {engine after a} h run := by
    obtain ⟨hsound, hlibrary, -⟩ := h.compile source
    unfold pattern at run
    split at run
    next compiled =>
      rw [compiled] at hsound hlibrary
      cases run
      exact ⟨hsound, hlibrary⟩
    next => cases run

/-! ### Documents -/

theorem blind_statement (doc : StatementDocument) : (statement doc).Blind :=
  (Blind.mapM blind_pattern doc.resource).bind fun _ =>
    (blind_ofLibrary _).bind fun _ => blind_pure _

theorem blind_policy (doc : PolicyDocument) : (policy doc).Blind := by
  have hread := (Blind.mapM blind_statement doc.statements).bind fun statements =>
    blind_pure (⟨doc.id, doc.label.getD doc.id, statements⟩ : Policy)
  unfold policy
  split
  · exact (blind_throw _).bind fun _ => hread
  · exact hread

theorem blind_role (doc : RoleDocument) : (role doc).Blind := by
  have hread : (do
      let statements ← doc.statements.mapM statement
      let condition ← ofLibrary fun library => library.readConditionDocument doc.condition
      return {
        id := doc.id, label := doc.label.getD doc.id, policies := doc.policies,
        inherits := doc.inherits, statements, condition, priority := doc.priority,
        customData := doc.customData } : Compiler Role).Blind :=
    (Blind.mapM blind_statement doc.statements).bind fun _ =>
      (blind_ofLibrary _).bind fun _ => blind_pure _
  unfold role
  split
  · exact (blind_throw _).bind fun _ => hread
  · exact hread

theorem blind_decode (read? : β → Option α) (v : β) : (decode read? v).Blind := by
  unfold decode
  split
  · exact blind_pure _
  · exact blind_throw _

end Compiler

open Compiler

namespace PolicyLists

theorem blind_documents {α : Type} (error : DocumentError) (read? : Value → Option α)
    (v : Value) : (documents error read? v).Blind := by
  unfold documents
  split
  · exact blind_pure _
  · exact blind_decode _ _
  · exact blind_throw _

/-- What documents define does not depend on what the engine has kept. -/
theorem blind_ofValues (policies roles : Value) : (ofValues policies roles).Blind :=
  (blind_documents _ _ policies).bind fun _ => (blind_documents _ _ roles).bind fun _ =>
    (Blind.mapM blind_policy _).bind fun _ => (Blind.mapM blind_role _).bind fun _ =>
      blind_pure _

end PolicyLists

namespace PolicySource

/-- The source of documents does not depend on what the engine has kept. -/
theorem blind_ofValues (policies roles : Value) : (ofValues policies roles).Blind :=
  (PolicyLists.blind_ofValues policies roles).bind fun _ => blind_pure _

/-- The source of documents that an engine reads. -/
def load (engine : Engine) (policies roles : Value) : Except PolicyError PolicySource :=
  ((ofValues policies roles).run engine).map (·.1)

end PolicySource

open Decision

namespace DenyOverrides

variable (config : Config) (room other : Nat)

/-- The answers to questions where denials win, from the documents on. -/
def serve (keys : List KeyResolver) (policies roles : Value) (questions : List Question) :
    Except PolicyError (List (Outcome PolicyError Answer)) := do
  let source ← PolicySource.load (config.engine keys) policies roles
  let engine ← ofSource source config
  return inTurn (questions.map engine.ask) {}

/-- No question asks for the room for templates. -/
theorem ask_room (source : PolicySource) :
    (⟨source, { config with cacheCapacity := room }⟩ : DenyOverrides).ask =
      (⟨source, { config with cacheCapacity := other }⟩ : DenyOverrides).ask := by
  funext question
  cases question <;> rfl

/-- Where the sources are the same, the room for templates makes no difference to the answers. -/
theorem serve_room {keys : List KeyResolver} {policies roles : Value}
    (h : PolicySource.load (({ config with cacheCapacity := room } : Config).engine keys) policies
        roles =
      PolicySource.load (({ config with cacheCapacity := other } : Config).engine keys) policies
        roles) (questions : List Question) :
    serve { config with cacheCapacity := room } keys policies roles questions =
      serve { config with cacheCapacity := other } keys policies roles questions := by
  unfold serve
  rw [h]
  refine bind_congr fun source => ?_
  change (config.validate >>= fun _ => _) >>= _ = (config.validate >>= fun _ => _) >>= _
  cases config.validate with
  | error e => rfl
  | ok =>
    change Except.ok (inTurn (questions.map (ask _)) {}) =
      Except.ok (inTurn (questions.map (ask _)) {})
    rw [ask_room config room other]

end DenyOverrides

namespace RoleGrants

variable (config : Config) (room other : Nat)

/-- The answers to questions about inherited roles, from the documents on. -/
def serve (keys : List KeyResolver) (policies roles : Value) (questions : List Question) :
    Except PolicyError (List (Outcome PolicyError Answer)) := do
  let source ← PolicySource.load (config.engine keys) policies roles
  let engine ← ofSource source config
  return inTurn (questions.map engine.ask) {}

/-- No question asks for the room for templates. -/
theorem ask_room (source : PolicySource) (graph : RoleGraph) :
    (⟨source, graph, { config with cacheCapacity := room }⟩ : RoleGrants).ask =
      (⟨source, graph, { config with cacheCapacity := other }⟩ : RoleGrants).ask := by
  funext question
  cases question <;> rfl

/-- Where the sources are the same, the room for templates makes no difference to the answers. -/
theorem serve_room {keys : List KeyResolver} {policies roles : Value}
    (h : PolicySource.load (({ config with cacheCapacity := room } : Config).engine keys) policies
        roles =
      PolicySource.load (({ config with cacheCapacity := other } : Config).engine keys) policies
        roles) (questions : List Question) :
    serve { config with cacheCapacity := room } keys policies roles questions =
      serve { config with cacheCapacity := other } keys policies roles questions := by
  unfold serve
  rw [h]
  refine bind_congr fun source => ?_
  change (config.validate >>= fun _ => RoleGraph.ofList source.roles config.maxRoleDepth >>= _)
    >>= _ = (config.validate >>= fun _ => RoleGraph.ofList source.roles config.maxRoleDepth >>= _)
    >>= _
  cases config.validate with
  | error e => rfl
  | ok =>
    cases hgraph : RoleGraph.ofList source.roles config.maxRoleDepth with
    | error e => rfl
    | ok graph =>
      change Except.ok (inTurn (questions.map (ask _)) {}) =
        Except.ok (inTurn (questions.map (ask _)) {})
      rw [ask_room config room other]

end RoleGrants

namespace Engine

/-- An engine with room for any number of templates, after any calls, replies what its library
gives without an engine; in particular a text has the value that reading it for this evaluation
gives. The engine never keeps more templates than it has room for, and a text that cannot be read
leaves it as it is. Engines of one library make the same source of the same documents, whatever
they kept before, so that the room for templates makes no difference to any decision. -/
theorem eval_after_calls (library : Library) (capacity : Nat) (calls : List Call) :
    let engine := ({ toLibrary := library, capacity } : Engine).after calls
    (∀ context text, (engine.eval context text).1 = library.evalText context text) ∧
      (∀ call, (engine.call call).1 = call.afresh library) ∧
      engine.size ≤ capacity ∧
      (∀ text e, library.readTemplate text = .error e →
        (engine.compile text).2 = engine ∧ ∀ context, (engine.eval context text).2 = engine) ∧
      (∀ room others policies roles, PolicySource.load engine policies roles =
        PolicySource.load (({ toLibrary := library, capacity := room } : Engine).after others)
          policies roles) ∧
      ∀ (config : Config) keys policies roles room other,
        (∀ questions,
          DenyOverrides.serve { config with cacheCapacity := room } keys policies roles questions =
            DenyOverrides.serve { config with cacheCapacity := other } keys policies roles
              questions) ∧
        ∀ questions,
          RoleGrants.serve { config with cacheCapacity := room } keys policies roles questions =
            RoleGrants.serve { config with cacheCapacity := other } keys policies roles
              questions := by
  intro engine
  obtain ⟨hsound, hlibrary, hcapacity⟩ := (sound_new library capacity).after calls
  refine ⟨fun context text => ?_, fun call => ?_, ?_, fun text e hread => ?_,
    fun room others policies roles => ?_, fun config keys policies roles room other => ?_⟩
  · rw [eval_fst hsound.faithful, hlibrary]
  · rw [call_fst hsound.faithful, hlibrary]
  · calc engine.size ≤ engine.capacity := hsound.size_le
      _ = capacity := hcapacity
  · have hread : engine.readTemplate text = .error e := by rw [hlibrary, hread]
    have hcompile := congrArg (·.2) (compile_of_error hsound.faithful hread)
    exact ⟨hcompile, fun context => (eval_snd engine context text).trans hcompile⟩
  · obtain ⟨hother, hotherLibrary, -⟩ := (sound_new library room).after others
    exact (PolicySource.blind_ofValues policies roles).result_eq hsound hother
      (hlibrary.trans hotherLibrary.symm)
  · -- The room for templates is the only difference, and no decision asks for it.
    have hsource : PolicySource.load (({ config with cacheCapacity := room } : Config).engine keys)
        policies roles = PolicySource.load
          (({ config with cacheCapacity := other } : Config).engine keys) policies roles :=
      (PolicySource.blind_ofValues policies roles).result_eq (sound_new _ room)
        (sound_new _ other) rfl
    exact ⟨DenyOverrides.serve_room config room other hsource,
      RoleGrants.serve_room config room other hsource⟩

/-- A text with an unknown key, after a text that the engine keeps in its only place. -/
theorem eval_after_calls_unknown :
    let library : Library := ⟨⟨.chain [], .chain []⟩, .chain [], .chain []⟩
    let engine := ({ toLibrary := library, capacity := 1 } : Engine).after [.compile "kept"]
    library.readTemplate "${owner}" = .error (.keyNotFound "field:owner") ∧
      (engine.compile "${owner}").2 = engine ∧ engine.size = 1 := by
  intro library engine
  have hpieces : Piece.ofText "${owner}".toList =
      [.text [], .segment "owner".toList, .text []] := by
    decide +kernel
  have hread : library.readTemplate "${owner}" = .error (.keyNotFound "field:owner") := by
    rw [Vocabulary.readTemplate_eq, hpieces]
    rfl
  obtain ⟨-, -, -, hkept, -⟩ := eval_after_calls library 1 [.compile "kept"]
  exact ⟨hread, (hkept _ _ hread).1, by decide +kernel⟩

end Engine

end AccessPolicy
