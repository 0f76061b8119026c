import AccessPolicy.Proofs.Policy.Loading

/-!
# What loading makes of documents

Everything that decisions evaluate was read from a document when it was loaded: the conditions,
and the patterns of resources with their templates (`PolicySource.ReadFrom`). Loading goes through
the documents by readings that each ensure something of what they make (`Compiler.Ensures`), and
so does all of it (`PolicySource.readFrom_of_load`).
-/

namespace AccessPolicy

/-! ### What is in documents -/

namespace PolicySource

/-- The policy documents of a list. -/
def policyDocuments (policies : Value) : List PolicyDocument :=
  (policies.items?.getD []).filterMap PolicyDocument.ofValue?

/-- The role documents of a list. -/
def roleDocuments (roles : Value) : List RoleDocument :=
  (roles.items?.getD []).filterMap RoleDocument.ofValue?

/-- The statements of policy and role documents. -/
def statementDocuments (policies roles : Value) : List StatementDocument :=
  (policyDocuments policies).flatMap (·.statements) ++ (roleDocuments roles).flatMap (·.statements)

/-- The condition documents of statements and roles. -/
def conditionDocuments (policies roles : Value) : List Value :=
  (statementDocuments policies roles).map (·.condition) ++ (roleDocuments roles).map (·.condition)

/-- The texts of the resources of statements. -/
def resourceEntries (policies roles : Value) : List String :=
  (statementDocuments policies roles).flatMap (·.resource)

end PolicySource

/-- What decisions evaluate of a statement is what a library reads in a document. -/
structure Statement.ReadFrom (library : Library) (doc : StatementDocument) (s : Statement) :
    Prop where
  /-- Each pattern has the template of an entry of the document. -/
  resource : ∀ pattern ∈ s.resource, pattern.source ∈ doc.resource ∧
    library.readTemplate pattern.source = .ok pattern.template
  /-- The condition is that of the document. -/
  condition : library.readConditionDocument doc.condition = .ok s.condition

/-- What decisions evaluate of a source is what a library reads in documents. -/
structure PolicySource.ReadFrom (library : Library) (policies roles : Value)
    (source : PolicySource) : Prop where
  /-- The statements of policies come from statements of the documents. -/
  policy {id : String} {policy : Policy} : policy ∈ source.policiesOfRole id →
    ∀ s ∈ policy.statements, ∃ doc ∈ statementDocuments policies roles, s.ReadFrom library doc
  /-- The statements of roles come from statements of the documents. -/
  role {role : Role} : role ∈ source.roles →
    ∀ s ∈ role.statements, ∃ doc ∈ statementDocuments policies roles, s.ReadFrom library doc
  /-- The conditions of roles come from condition documents. -/
  condition {role : Role} : role ∈ source.roles →
    ∃ document ∈ conditionDocuments policies roles,
      library.readConditionDocument document = .ok role.condition

/-! ### Readings -/

namespace Compiler

variable {α β : Type} {library : Library} {P : α → Prop} {Q : β → Prop}

/-- Whatever a reading makes with a sound engine of a library has a property. -/
structure Ensures (library : Library) (x : Compiler α) (P : α → Prop) : Prop where
  /-- The property holds after every run that makes something. -/
  of_run {engine after : Engine} {a : α} : engine.Sound → engine.toLibrary = library →
    x engine = .ok (a, after) → P a

theorem ensures_pure {a : α} (h : P a) : Ensures library (pure a) P where
  of_run _ _ run := by
    cases run
    exact h

theorem ensures_throw (e : PolicyError) (P : α → Prop) : Ensures library (throw e) P where
  of_run _ _ run := by cases run

theorem Ensures.bind {x : Compiler α} {f : α → Compiler β} (hx : Ensures library x P)
    (hblind : x.Blind) (hf : ∀ a, P a → Ensures library (f a) Q) :
    Ensures library (x >>= f) Q where
  of_run {engine after b} h hlibrary run := by
    change ((x engine).bind fun p => f p.1 p.2) = .ok (b, after) at run
    cases hrun : x engine with
    | error e =>
      rw [hrun] at run
      cases run
    | ok p =>
      rw [hrun] at run
      -- The engine after the first reading is sound and still that of the library.
      obtain ⟨hsound, hkept⟩ := hblind.sound h hrun
      exact (hf p.1 (hx.of_run h hlibrary hrun)).of_run hsound (hkept.trans hlibrary) run

/-- What is made of a list is made of its members. -/
theorem Ensures.mapM {f : α → Compiler β} {R : α → β → Prop}
    (hf : ∀ a, Ensures library (f a) (R a)) (hblind : ∀ a, (f a).Blind) (l : List α) :
    Ensures library (l.mapM f) fun bs => ∀ b ∈ bs, ∃ a ∈ l, R a b := by
  induction l with
  | nil => exact ensures_pure fun b hb => absurd hb List.not_mem_nil
  | cons a l ih =>
    rw [List.mapM_cons]
    refine (hf a).bind (hblind a) fun b hb => ih.bind (Blind.mapM hblind l) fun bs hbs => ?_
    refine ensures_pure (List.forall_mem_cons.2 ⟨⟨a, List.mem_cons_self, hb⟩, fun c hc => ?_⟩)
    obtain ⟨d, hd, hdc⟩ := hbs c hc
    exact ⟨d, List.mem_cons_of_mem a hd, hdc⟩

theorem ensures_ofLibrary (f : Library → Except ExprError α) :
    Ensures library (ofLibrary f) fun a => f library = .ok a where
  of_run {engine after a} _ hlibrary run := by
    unfold ofLibrary at run
    rw [hlibrary] at run
    cases hf : f library with
    | error e => rw [hf] at run; cases run
    | ok b => rw [hf] at run; cases run; rfl

/-- A pattern is an entry with the template that the library reads. -/
theorem ensures_pattern (entry : String) :
    Ensures library (pattern entry) fun p =>
      p.source = entry ∧ library.readTemplate entry = .ok p.template where
  of_run {engine after p} h hlibrary run := by
    -- A template from the cache of the engine is the one that the library reads.
    have hcompile := Engine.compile_fst h.faithful entry
    rw [hlibrary] at hcompile
    rw [← hcompile]
    unfold pattern at run
    split at run
    next hcompiled =>
      cases run
      rw [hcompiled]
      exact ⟨rfl, rfl⟩
    next => cases run

/-! ### Documents -/

theorem ensures_statement (doc : StatementDocument) :
    Ensures library (statement doc) (Statement.ReadFrom library doc) := by
  refine (Ensures.mapM ensures_pattern blind_pattern doc.resource).bind
    (Blind.mapM blind_pattern doc.resource) fun resource hresource => ?_
  refine (ensures_ofLibrary _).bind (blind_ofLibrary _) fun condition hcondition => ?_
  refine ensures_pure ⟨fun pattern hpattern => ?_, hcondition⟩
  obtain ⟨entry, hentry, rfl, hread⟩ := hresource pattern hpattern
  exact ⟨hentry, hread⟩

/-- The statements of a policy come from those of its document. -/
theorem ensures_policy (doc : PolicyDocument) :
    Ensures library (policy doc) fun policy =>
      ∀ s ∈ policy.statements, ∃ d ∈ doc.statements, Statement.ReadFrom library d s := by
  have hread : Ensures library (do
      let statements ← doc.statements.mapM statement
      return ⟨doc.id, doc.label.getD doc.id, statements⟩ : Compiler Policy) fun policy =>
        ∀ s ∈ policy.statements, ∃ d ∈ doc.statements, Statement.ReadFrom library d s :=
    (Ensures.mapM ensures_statement blind_statement doc.statements).bind
      (Blind.mapM blind_statement doc.statements) fun _ hstatements => ensures_pure hstatements
  unfold policy
  split
  · exact (ensures_throw _ fun _ => False).bind (blind_throw _) fun _ _ => hread
  · exact hread

/-- The statements and the condition of a role come from its document. -/
theorem ensures_role (doc : RoleDocument) :
    Ensures library (role doc) fun role =>
      library.readConditionDocument doc.condition = .ok role.condition ∧
        ∀ s ∈ role.statements, ∃ d ∈ doc.statements, Statement.ReadFrom library d s := by
  have hread : Ensures library (do
      let statements ← doc.statements.mapM statement
      let condition ← ofLibrary fun library => library.readConditionDocument doc.condition
      return {
        id := doc.id, label := doc.label.getD doc.id, policies := doc.policies,
        inherits := doc.inherits, statements, condition, priority := doc.priority,
        customData := doc.customData } : Compiler Role) fun role =>
          library.readConditionDocument doc.condition = .ok role.condition ∧
            ∀ s ∈ role.statements, ∃ d ∈ doc.statements, Statement.ReadFrom library d s :=
    (Ensures.mapM ensures_statement blind_statement doc.statements).bind
      (Blind.mapM blind_statement doc.statements) fun _ hstatements =>
        (ensures_ofLibrary _).bind (blind_ofLibrary _) fun _ hcondition =>
          ensures_pure ⟨hcondition, hstatements⟩
  unfold role
  split
  · exact (ensures_throw _ fun _ => False).bind (blind_throw _) fun _ _ => hread
  · exact hread

/-- Reading every item of a list leaves none of them out. -/
theorem eq_filterMap_of_mapM {read? : α → Option β} {items : List α} {docs : List β}
    (h : items.mapM read? = some docs) : docs = items.filterMap read? := by
  induction items generalizing docs with
  | nil => simpa using h.symm
  | cons item items ih =>
    rw [List.mapM_cons] at h
    cases hitem : read? item with
    | none => simp [hitem] at h
    | some doc =>
      cases hitems : items.mapM read? with
      | none => simp [hitem, hitems] at h
      | some rest =>
        rw [List.filterMap_cons_some hitem, ← ih hitems]
        simpa [hitem, hitems] using h.symm

/-- The documents of a list are those that its items hold. -/
theorem ensures_documents (error : DocumentError) (read? : Value → Option α) (v : Value) :
    Ensures library (PolicyLists.documents error read? v) fun docs =>
      docs = (v.items?.getD []).filterMap read? := by
  unfold PolicyLists.documents
  split
  · exact ensures_pure rfl
  · next items =>
    unfold decode
    split
    next docs hdocs => exact ensures_pure (eq_filterMap_of_mapM hdocs)
    next => exact ensures_throw _ _
  · exact ensures_throw _ _

end Compiler

/-! ### Sources -/

namespace PolicySource

open Compiler

/-- What decisions evaluate of the source of documents is what the library reads in them. -/
theorem ensures_ofValues {library : Library} (policies roles : Value) :
    Ensures library (ofValues policies roles) (ReadFrom library policies roles) := by
  refine Ensures.bind (P := fun lists => ReadFrom library policies roles lists.toSource) ?_
    (PolicyLists.blind_ofValues policies roles) fun lists hlists => ensures_pure hlists
  refine (ensures_documents _ _ policies).bind (PolicyLists.blind_documents _ _ _) ?_
  rintro policyDocs rfl
  refine (ensures_documents _ _ roles).bind (PolicyLists.blind_documents _ _ _) ?_
  rintro roleDocs rfl
  refine (Ensures.mapM ensures_policy blind_policy _).bind (Blind.mapM blind_policy _)
    fun loadedPolicies hpolicies => ?_
  refine (Ensures.mapM ensures_role blind_role _).bind (Blind.mapM blind_role _)
    fun loadedRoles hroles => ?_
  refine ensures_pure ⟨fun {id policy} found s hs => ?_, fun {role} found s hs => ?_,
    fun {role} found => ?_⟩
  -- What the source has is one of the policies or roles that were made of the documents.
  · obtain ⟨doc, hdoc, hread⟩ := hpolicies policy (mem_policiesOfRole_ofLists.1 found).mem
    obtain ⟨d, hd, hs⟩ := hread s hs
    exact ⟨d, List.mem_append_left _ (List.mem_flatMap.2 ⟨doc, hdoc, hd⟩), hs⟩
  · obtain ⟨doc, hdoc, -, hread⟩ := hroles role (mem_of_mem_roles_ofLists found)
    obtain ⟨d, hd, hs⟩ := hread s hs
    exact ⟨d, List.mem_append_right _ (List.mem_flatMap.2 ⟨doc, hdoc, hd⟩), hs⟩
  · obtain ⟨doc, hdoc, hcondition, -⟩ := hroles role (mem_of_mem_roles_ofLists found)
    exact ⟨doc.condition, List.mem_append_right _ (List.mem_map.2 ⟨doc, hdoc, rfl⟩), hcondition⟩

/-- What decisions evaluate of a loaded source is what the library of the engine reads in its
documents, however the engine was used before. -/
theorem readFrom_of_load {library : Library} {capacity : Nat} {calls : List Engine.Call}
    {policies roles : Value} {source : PolicySource}
    (loaded : load (({ toLibrary := library, capacity } : Engine).after calls) policies roles =
      .ok source) : source.ReadFrom library policies roles := by
  obtain ⟨hsound, hlibrary, -⟩ := (Engine.sound_new library capacity).after calls
  unfold load at loaded
  cases run : (ofValues policies roles).run
      (({ toLibrary := library, capacity } : Engine).after calls) with
  | error e => rw [run] at loaded; cases loaded
  | ok p =>
    rw [run] at loaded
    obtain rfl := Except.ok.inj loaded
    exact (ensures_ofValues policies roles).of_run hsound hlibrary run

end PolicySource

end AccessPolicy
