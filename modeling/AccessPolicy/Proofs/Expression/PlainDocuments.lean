import AccessPolicy.Expression.Engine
import AccessPolicy.Proofs.Expression.Objects
import AccessPolicy.Proofs.Expression.References

/-!
# Plain documents

A document without segments and annotations stands for itself: every engine reads it as an
expression that has the document for its value in every context and refers to no fields
(`Engine.readTree_plain`). The proof goes through the document as reading does. What it needs of
the expression of each part is `Expr.Denotes`, which lists and objects of expressions inherit from
their members.
-/

namespace AccessPolicy

/-! ### Plain values -/

namespace Value

mutual

/-- No text within the value has an opening of a segment, and the name of no field within it
begins with an at sign. -/
def Plain : Value → Prop
  | .string text => ¬['$', '\x7b'] <:+: text.toList
  | .array items => AllPlain items
  | .object fields => FieldsPlain fields
  | _ => True

/-- Every value of the list is plain. -/
def AllPlain : List Value → Prop
  | [] => True
  | v :: vs => v.Plain ∧ AllPlain vs

/-- Every value of the fields is plain, and so is every name. -/
def FieldsPlain : List (String × Value) → Prop
  | [] => True
  | (name, v) :: rest => name.toList.head? ≠ some '@' ∧ v.Plain ∧ FieldsPlain rest

end

theorem FieldsPlain.head?_ne {fields : Fields} (h : FieldsPlain fields) :
    ∀ name ∈ Entries.keys fields, name.toList.head? ≠ some '@' := by
  induction fields with
  | nil => simp [Entries.keys]
  | cons field fields ih =>
    obtain ⟨name, v⟩ := field
    obtain ⟨hname, -, hfields⟩ := h
    exact List.forall_mem_cons.2 ⟨hname, ih hfields⟩

end Value

theorem FieldRole.ofName_plain {name : String} (h : name.toList.head? ≠ some '@') :
    FieldRole.ofName name = .plain := by
  have hfront (front : List Char) : Text.dropFront? ('@' :: front) name.toList = none := by
    cases hcs : name.toList with
    | nil => rfl
    | cons c cs =>
      have hc : '@' ≠ c := by
        rintro rfl
        exact h (by rw [hcs, List.head?_cons])
      rw [Text.dropFront?, if_neg hc]
  have hcontainer : Text.dropFront? "@container".toList name.toList = none :=
    hfront "container".toList
  have hwhen : Text.dropFront? "@when".toList name.toList = none := hfront "when".toList
  rw [ofName, hcontainer, hwhen]
  simp [h]

/-! ### Expressions of plain values -/

namespace Expr

variable {expr : Expr} {v : Value} {exprs : List Expr} {items : List Value}
  {named : List (String × Expr)} {fields : Fields}

/-- The expression has the value in every context and without any events, and refers to no
fields. -/
structure Denotes (expr : Expr) (v : Value) : Prop where
  /-- It has the value in every context. -/
  eval_eq (context : Context) : expr.eval context = .ok v
  /-- No guard keeps it out of a list. -/
  isSkipped_eq (context : Context) : expr.isSkipped context = .ok false
  /-- As an object it is not null, so that it is not left out of an object around it. -/
  isNull_eq : (expr.isObject && v.isNull) = false
  /-- It refers to no fields. -/
  references_eq : expr.references = []

theorem denotes_text {template : Template} (hrun : ∀ context, template.run context = (v, []))
    (hfields : template.fields = []) : (text template).Denotes v where
  eval_eq context := by
    rw [eval, Template.eval, hrun]
    rfl
  isSkipped_eq context := by
    simp only [isSkipped]
    rfl
  isNull_eq := rfl
  references_eq := by rw [references, hfields]

theorem denotes_const (v : Value) : (const v).Denotes v :=
  denotes_text (fun _ => rfl) rfl

theorem evalItems_of_denotes (h : List.Forall₂ Denotes exprs items) (context : Context) :
    evalItems context exprs = .ok items := by
  induction h with
  | nil => rw [evalItems]; rfl
  | cons h _ ih =>
    rw [evalItems, h.isSkipped_eq, h.eval_eq, ih]
    rfl

theorem denotes_array (h : List.Forall₂ Denotes exprs items) :
    (array exprs).Denotes (.array items) where
  eval_eq context := by
    rw [eval, evalItems_of_denotes h]
    rfl
  isSkipped_eq context := by
    simp only [isSkipped]
    rfl
  isNull_eq := rfl
  references_eq := by
    rw [references]
    induction h with
    | nil => rw [itemReferences]
    | cons h _ ih => rw [itemReferences, h.references_eq, ih, List.nil_append]

/-- Named expressions have the values of some fields under the names of these. -/
abbrev DenoteFields : List (String × Expr) → Fields → Prop :=
  List.Forall₂ fun field entry => field.1 = entry.1 ∧ field.2.Denotes entry.2

theorem keys_of_denoteFields (h : DenoteFields named fields) :
    Entries.keys named = Entries.keys fields := by
  induction h with
  | nil => rfl
  | cons h _ ih => exact congrArg₂ List.cons h.1 ih

/-- Plain fields add themselves. -/
theorem allEntries_of_denoteFields (h : DenoteFields named fields)
    (hplain : ∀ name ∈ Entries.keys fields, name.toList.head? ≠ some '@') (context : Context) :
    allEntries context named = .ok fields := by
  induction h with
  | nil => rfl
  | @cons field entry named fields h _ ih =>
    obtain ⟨name, expr⟩ := field
    obtain ⟨_, v⟩ := entry
    obtain ⟨rfl, hv⟩ : name = _ ∧ expr.Denotes v := h
    obtain ⟨hname, hrest⟩ := List.forall_mem_cons.1 hplain
    have hentries : entriesOf .plain name expr v = [(name, v)] := by
      rw [entriesOf, hv.isNull_eq]
      rfl
    -- The field adds its entry, and the others follow.
    rw [allEntries_cons, ih hrest, addedEntries, FieldRole.ofName_plain hname, hv.eval_eq]
    change Outcome.ok (entriesOf .plain name expr v ++ fields) = _
    rw [hentries, List.singleton_append]

theorem denotes_object (h : DenoteFields named fields) (hnodup : (Entries.keys fields).Nodup)
    (hplain : ∀ name ∈ Entries.keys fields, name.toList.head? ≠ some '@') :
    (object named).Denotes (.object fields) := by
  -- No field of a plain name steers the object.
  have hfield {name : String} (hname : name.toList.head? = some '@') (context : Context) :
      evalField context name named = .ok none := by
    have hnot : name ∉ Entries.keys named := by
      rw [keys_of_denoteFields h]
      exact fun hmem => hplain name hmem hname
    rw [evalField_eq, Entries.get?_of_not_mem_keys hnot]
    rfl
  have hrender (context : Context) : render context [] named = .ok fields := by
    rw [render_eq, allEntries_of_denoteFields h hplain]
    -- No name repeats, so writing the fields to an empty object gives them back.
    change Outcome.ok (Entries.insertAll [] fields) = _
    rw [Entries.insertAll_of_disjoint (by simp [Entries.keys]) hnodup, List.nil_append]
  constructor
  case eval_eq =>
    intro context
    rw [eval_object, hfield rfl, hfield rfl, evalOnce, hfield rfl, hrender]
    rfl
  case isSkipped_eq =>
    intro context
    rw [isSkipped, hfield rfl]
    rfl
  case isNull_eq => rfl
  case references_eq =>
    rw [references]
    clear hfield hrender hplain hnodup
    induction h with
    | nil => rw [fieldReferences]
    | cons h _ ih => rw [fieldReferences, h.2.references_eq, ih, List.nil_append]

end Expr

namespace Library

variable (library : Library)

/-- Text without the opening of a segment is read as itself. -/
theorem readTemplate_of_unopened {text : String} (h : ¬['$', '\x7b'] <:+: text.toList) :
    ∃ template, library.readTemplate text = .ok template ∧
      (Expr.text template).Denotes (.string text) := by
  refine ⟨.ofParts (Vocabulary.literal text.toList),
    library.readTemplate_literal (Text.cutAt?_eq_none_iff.2 h), ?_⟩
  rw [Vocabulary.literal]
  split
  next hempty =>
    -- The empty text has no part, and its value is the text of none.
    obtain rfl : text = "" := by simpa using hempty
    exact Expr.denotes_text (fun _ => rfl) rfl
  next =>
    rw [String.ofList_toList]
    exact Expr.denotes_const (.string text)

mutual

/-- A plain value is read as an expression of this value. -/
theorem exists_readTree : (v : Value) → v.WellFormed → v.Plain →
    ∃ expr, library.readTree v = .ok expr ∧ expr.Denotes v
  | .string text, _, hplain => by
    obtain ⟨template, hread, hdenotes⟩ := library.readTemplate_of_unopened hplain
    exact ⟨.text template, by rw [readTree, hread]; rfl, hdenotes⟩
  | .array items, hwf, hplain => by
    obtain ⟨exprs, hread, hdenotes⟩ := exists_readItems items hwf hplain
    exact ⟨.array exprs, by rw [readTree, hread]; rfl, Expr.denotes_array hdenotes⟩
  | .object fields, hwf, hplain => by
    obtain ⟨named, hread, hdenotes⟩ := exists_readFields fields hwf.2 hplain
    have hexec : Entries.get? execField fields = none :=
      Entries.get?_of_not_mem_keys fun hmem => hplain.head?_ne execField hmem rfl
    refine ⟨.object named, ?_, Expr.denotes_object hdenotes hwf.1 hplain.head?_ne⟩
    rw [readTree, hexec, hread]
    rfl
  | .null, _, _ => ⟨.const .null, by simp only [readTree], Expr.denotes_const _⟩
  | .bool b, _, _ => ⟨.const (.bool b), by simp only [readTree], Expr.denotes_const _⟩
  | .number n, _, _ => ⟨.const (.number n), by simp only [readTree], Expr.denotes_const _⟩

theorem exists_readItems : (items : List Value) → Value.AllWellFormed items →
    Value.AllPlain items →
    ∃ exprs, library.readItems items = .ok exprs ∧ List.Forall₂ Expr.Denotes exprs items
  | [], _, _ => ⟨[], by rw [readItems], .nil⟩
  | v :: items, hwf, hplain => by
    obtain ⟨expr, hread, hv⟩ := exists_readTree v hwf.1 hplain.1
    obtain ⟨exprs, hreads, hitems⟩ := exists_readItems items hwf.2 hplain.2
    exact ⟨expr :: exprs, by rw [readItems, hread, hreads]; rfl, .cons hv hitems⟩

theorem exists_readFields : (fields : Fields) → Value.FieldsWellFormed fields →
    Value.FieldsPlain fields →
    ∃ named, library.readFields fields = .ok named ∧ Expr.DenoteFields named fields
  | [], _, _ => ⟨[], by rw [readFields], .nil⟩
  | (name, v) :: fields, hwf, hplain => by
    obtain ⟨expr, hread, hv⟩ := exists_readTree v hwf.1 hplain.2.1
    obtain ⟨named, hreads, hfields⟩ := exists_readFields fields hwf.2 hplain.2.2
    exact ⟨(name, expr) :: named, by rw [readFields, hread, hreads]; rfl, .cons ⟨rfl, hv⟩ hfields⟩

end

end Library

/-- A document in which no text has the opening of a segment and no name of a field begins with an
at sign is read by every engine. The expression has the document itself for its value in every
context, with the same kinds of numbers and the same order of fields and without any events, and
refers to no fields. -/
theorem Engine.readTree_plain (engine : Engine) {document : Value} (hwf : document.WellFormed)
    (hplain : document.Plain) :
    ∃ expr, engine.readTree document = .ok expr ∧
      (∀ context, expr.eval context = .ok document) ∧ expr.fields = [] := by
  obtain ⟨expr, hread, hdenotes⟩ := engine.exists_readTree document hwf hplain
  refine ⟨expr, hread, hdenotes.eval_eq, ?_⟩
  rw [Expr.fields_eq, hdenotes.references_eq]
  rfl

/-- A document with nested and empty lists and objects, null among fields and items, an integer
beside a double, a dollar apart from a brace, and an at sign within a name. -/
theorem Engine.readTree_plain_nested :
    let engine : Engine := { toLibrary := ⟨⟨.chain [], .chain []⟩, .chain [], .chain []⟩ }
    let document : Value := .object [("user@host", .array [.string "", .null, .object [],
      .string "$ \x7b\x7d", .array [.object [("", .null), ("item", .bool false)]]]),
      ("n", .ofInt (-1)), ("a", .number (.float (.zero true)))]
    document.WellFormed ∧ document.Plain ∧ ∃ expr, engine.readTree document = .ok expr ∧
      (∀ context, expr.eval context = .ok document) ∧ expr.fields = [] := by
  intro engine document
  have hwf : document.WellFormed := by
    simp [document, Value.WellFormed, Value.AllWellFormed, Value.FieldsWellFormed, Entries.keys,
      Value.ofInt]
  have hplain : document.Plain := by
    have htext : ¬['$', '\x7b'] <:+: ['$', ' ', '\x7b', '\x7d'] := by decide
    simp [document, Value.Plain, Value.AllPlain, Value.FieldsPlain, Value.ofInt, htext]
  exact ⟨hwf, hplain, engine.readTree_plain hwf hplain⟩

end AccessPolicy
