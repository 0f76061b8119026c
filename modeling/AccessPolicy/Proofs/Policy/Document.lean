import AccessPolicy.Policy.Document
import AccessPolicy.Proofs.Json.Record

/-!
# Documents that are written are read back

Statements, policies and roles leave out the fields that say nothing when they are written, and
each field that is left out is read as what was left out. So what is written for a statement or a
policy is read as that statement or policy, and so is a role whose priority fits in 32 bits
(`StatementDocument.ofValue?_toValue`, `PolicyDocument.ofValue?_toValue`,
`RoleDocument.ofValue?_toValue`).
-/

namespace AccessPolicy

open Entries

/-! ### Texts and lists of texts -/

namespace Value

/-- A text is written as the value that it was read from. -/
theorem string_of_text? {v : Value} {text : String} (h : v.text? = some text) :
    .string text = v := by
  cases v <;> cases h
  rfl

theorem texts?_textList (texts : List String) : (textList texts).texts? = some texts := by
  change (texts.map Value.string).mapM text? = some texts
  induction texts with
  | nil => rfl
  | cons text texts ih =>
    rw [List.map_cons, List.mapM_cons, ih]
    rfl

/-- A list of texts is written as the value that it was read from. -/
theorem textList_of_texts? {v : Value} {texts : List String} (h : v.texts? = some texts) :
    textList texts = v := by
  obtain ⟨items, hitems, hread⟩ := Option.bind_eq_some_iff.1 h
  cases v <;> cases hitems
  refine congrArg Value.array ?_
  -- The induction is on the items; each of them is the text that was read of it.
  induction items generalizing texts with
  | nil =>
    obtain rfl := Option.some.inj hread
    rfl
  | cons item items ih =>
    rw [List.mapM_cons] at hread
    obtain ⟨text, htext, hread⟩ := Option.bind_eq_some_iff.1 hread
    obtain ⟨rest, hrest, hread⟩ := Option.bind_eq_some_iff.1 hread
    obtain rfl := Option.some.inj hread
    have hitems : (Value.array items).texts? = some rest := hrest
    rw [List.map_cons, string_of_text? htext, ih hitems hrest]

end Value

/-- A single text or a list of texts is written as a list, which is read as the same texts. -/
theorem oneOrMany?_textList (texts : List String) : oneOrMany? (textList texts) = some texts :=
  Value.texts?_textList texts

/-- An effect is written as its name. -/
theorem Effect.ofValue?_name (effect : Effect) :
    Effect.ofValue? (.string effect.name) = some effect := by
  cases effect <;> rfl

/-- A priority that fits in 32 bits is read back. -/
theorem priority?_ofInt {n : Int} (h : -Int.pow 2 31 ≤ n ∧ n < Int.pow 2 31) :
    priority? (.ofInt n) = some n := by
  simpa [priority?, Value.ofInt, Value.integer?] using h

/-- What is read as a priority fits in 32 bits. -/
theorem bounds_of_priority? {v : Value} {n : Int} (h : priority? v = some n) :
    -Int.pow 2 31 ≤ n ∧ n < Int.pow 2 31 := by
  obtain ⟨-, hn⟩ := Option.filter_eq_some_iff.1 h
  simpa using hn

/-! ### Fields that may be left out -/

section Fields

variable {fields : Fields}

@[simp]
theorem get?_textField (key name : String) (text : Option String) :
    get? key (textField name text) = if name = key then text.map .string else none :=
  get?_toList_map key name Value.string text

@[simp]
theorem get?_valueEntry (key name : String) (v : Value) :
    get? key (valueEntry name v) =
      if name = key then (if v.isNull then none else some v) else none := by
  unfold valueEntry
  split <;> simp [get?]

@[simp]
theorem get?_objectField (key name : String) (object : Fields) :
    get? key (objectField name object) =
      if name = key then (if object.isEmpty then none else some (.object object)) else none := by
  unfold objectField
  split <;> simp [get?]

/-- A text that may be missing is read back. -/
theorem optional?_textField {name : String} {t : Option String}
    (h : get? name fields = t.map .string) :
    optional? name (Value.nullable? Value.text?) none fields = some t :=
  optional?_of_map (fun _ _ => rfl) (fun _ => rfl) h

/-- A value that is left out if it is null is read back. -/
theorem optional?_valueEntry {name : String} {v : Value}
    (h : get? name fields = if v.isNull then none else some v) :
    optional? name some .null fields = some v := by
  rw [optional?, h]
  cases v <;> rfl

/-- An object that is left out if it is empty is read back. -/
theorem optional?_objectField {name : String} {o : Fields}
    (h : get? name fields = if o.isEmpty then none else some (.object o)) :
    optional? name Value.fields? [] fields = some o := by
  rw [optional?, h]
  cases o <;> rfl

/-- A field that is always written is read back if its value is. -/
theorem optional?_of_get? {α : Type} {name : String} {read? : Value → Option α} {default : α}
    {v : Value} (h : get? name fields = some v) :
    optional? name read? default fields = read? v := by
  rw [optional?, h]

theorem required?_of_get? {α : Type} {name : String} {read? : Value → Option α} {v : Value}
    (h : get? name fields = some v) : required? name read? fields = read? v := by
  rw [required?, h]
  rfl

end Fields

/-! ### Statements -/

/-- What is written for a statement is read as the statement. -/
theorem StatementDocument.ofValue?_toValue (doc : StatementDocument) :
    ofValue? doc.toValue = some doc := by
  obtain ⟨id, effect, actions, resource, condition, allow, deny⟩ := doc
  simp only [ofValue?, toValue, Value.record?, Option.bind_eq_bind, Option.bind_some]
  rw [optional?_textField (t := id) (by simp [get?_append, get?]),
    required?_of_get? (v := .string effect.name) (by simp [get?_append, get?]),
    Effect.ofValue?_name,
    optional?_of_get? (v := textList actions) (by simp [get?_append, get?]),
    Value.texts?_textList,
    optional?_of_get? (v := textList resource) (by simp [get?_append, get?]),
    oneOrMany?_textList,
    optional?_valueEntry (v := condition) (by simp [get?_append, get?]),
    optional?_objectField (o := allow) (by simp [get?_append, get?]),
    optional?_objectField (o := deny) (by simp [get?_append, get?])]
  rfl

/-- The statements of a list are read back. -/
theorem statements?_map_toValue (docs : List StatementDocument) :
    statements? (.array (docs.map StatementDocument.toValue)) = some docs := by
  change (docs.map StatementDocument.toValue).mapM StatementDocument.ofValue? = some docs
  induction docs with
  | nil => rfl
  | cons doc docs ih =>
    rw [List.map_cons, List.mapM_cons, doc.ofValue?_toValue, ih]
    rfl

/-! ### Policies and roles -/

/-- What is written for a policy is read as the policy. -/
theorem PolicyDocument.ofValue?_toValue (doc : PolicyDocument) :
    ofValue? doc.toValue = some doc := by
  obtain ⟨id, label, statements⟩ := doc
  simp only [ofValue?, toValue, Value.record?, Option.bind_eq_bind, Option.bind_some]
  rw [required?_of_get? (v := .string id) (by simp [get?]),
    optional?_textField (t := label) (by simp [get?_append, get?]),
    optional?_of_get? (v := .array (statements.map StatementDocument.toValue))
      (by simp [get?_append, get?]),
    statements?_map_toValue]
  rfl

/-- What is written for a role is read as the role, if its priority fits in 32 bits. -/
theorem RoleDocument.ofValue?_toValue {doc : RoleDocument}
    (h : -Int.pow 2 31 ≤ doc.priority ∧ doc.priority < Int.pow 2 31) :
    ofValue? doc.toValue = some doc := by
  obtain ⟨id, label, policies, inherits, statements, priority, condition, customData⟩ := doc
  simp only [ofValue?, toValue, Value.record?, Option.bind_eq_bind, Option.bind_some]
  rw [required?_of_get? (v := .string id) (by simp [get?]),
    optional?_textField (t := label) (by simp [get?_append, get?]),
    optional?_of_get? (v := textList policies) (by simp [get?_append, get?]),
    Value.texts?_textList,
    optional?_of_get? (v := textList inherits) (by simp [get?_append, get?]),
    Value.texts?_textList,
    optional?_of_get? (v := .array (statements.map StatementDocument.toValue))
      (by simp [get?_append, get?]),
    statements?_map_toValue,
    optional?_of_get? (v := .ofInt priority) (by simp [get?_append, get?]),
    priority?_ofInt h,
    optional?_valueEntry (v := condition) (by simp [get?_append, get?]),
    optional?_objectField (o := customData) (by simp [get?_append, get?])]
  rfl

/-- A role that was read has a priority that fits in 32 bits. -/
theorem RoleDocument.priority_of_ofValue? {v : Value} {doc : RoleDocument}
    (h : ofValue? v = some doc) : -Int.pow 2 31 ≤ doc.priority ∧ doc.priority < Int.pow 2 31 := by
  simp only [ofValue?, Option.bind_eq_bind, Option.bind_eq_some_iff] at h
  obtain ⟨_, -, _, -, _, -, _, -, _, -, _, -, priority, hpriority, _, -, _, -, hdoc⟩ := h
  obtain rfl := Option.some.inj hdoc
  unfold optional? at hpriority
  split at hpriority
  next => exact bounds_of_priority? hpriority
  next =>
    obtain rfl := Option.some.inj hpriority
    change -Int.pow 2 31 ≤ (0 : Int) ∧ (0 : Int) < Int.pow 2 31
    decide

end AccessPolicy
