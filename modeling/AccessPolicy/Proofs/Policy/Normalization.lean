import AccessPolicy.Json.Writer
import AccessPolicy.Proofs.Policy.Claims

/-!
# Normal forms of documents

Reading a document and writing it again gives its normal form: defaults are filled in or left
out, a single resource becomes a list, and a role that is no text is dropped. A value that can be
read is read in the same way from its normal form (`Restored`), whether it holds a statement, a
policy, a role, claims or an environment. So the normal form of a normal form is the same text
again, and a policy or a role means the same in either form (`restored_of_wellFormed`).
-/

namespace AccessPolicy

variable {α : Type} {read? : Value → Option α} {write : α → Value} {v : Value}

/-- The normal form of a value, if the value can be read. -/
def normalize? (read? : Value → Option α) (write : α → Value) (v : Value) : Option Value :=
  (read? v).map write

/-- What is read of a value is read of its normal form too. -/
structure Restored (read? : Value → Option α) (write : α → Value) (v : Value) : Prop where
  /-- What was written for the value is read as what was read of the value. -/
  read_write : ∀ a, read? v = some a → read? (write a) = some a
  /-- The normal form has itself as its normal form. -/
  normalize_twice : (normalize? read? write v).bind (normalize? read? write) =
    normalize? read? write v
  /-- Both have the same text. -/
  toJson_twice : ((normalize? read? write v).bind (normalize? read? write)).map Value.toJson =
    (normalize? read? write v).map Value.toJson
  /-- Both have the same indented text. -/
  toPrettyJson_twice :
    ((normalize? read? write v).bind (normalize? read? write)).map (Value.toPrettyJson 0) =
      (normalize? read? write v).map (Value.toPrettyJson 0)

/-- It is enough that what is written is read back. -/
theorem restored_of_read_write (h : ∀ a, read? v = some a → read? (write a) = some a) :
    Restored read? write v := by
  have htwice : (normalize? read? write v).bind (normalize? read? write) =
      normalize? read? write v := by
    unfold normalize?
    cases hread : read? v with
    | none => rfl
    | some a => simp [h a hread]
  exact ⟨h, htwice, by rw [htwice], by rw [htwice]⟩

namespace Compiler

/-- Values that hold the same document mean the same policy. -/
theorem policyOfValue_congr {w : Value}
    (h : PolicyDocument.ofValue? v = PolicyDocument.ofValue? w) :
    policyOfValue v = policyOfValue w := by
  unfold policyOfValue decode
  rw [h]

/-- Values that hold the same document mean the same role. -/
theorem roleOfValue_congr {w : Value} (h : RoleDocument.ofValue? v = RoleDocument.ofValue? w) :
    roleOfValue v = roleOfValue w := by
  unfold roleOfValue decode
  rw [h]

end Compiler

/-- Every value that can be read as a statement, a policy, a role, claims or an environment is
read in the same way from its normal form, and the normal form of that is the same text. Whatever
an engine has read before, it makes the same policy or role of the normal form as of the value
itself, or fails with the same error, and has the same templates afterwards. -/
theorem restored_of_wellFormed (v : Value) (hv : v.WellFormed) :
    Restored StatementDocument.ofValue? StatementDocument.toValue v ∧
      Restored PolicyDocument.ofValue? PolicyDocument.toValue v ∧
      Restored RoleDocument.ofValue? RoleDocument.toValue v ∧
      Restored Claims.ofValue? Claims.toValue v ∧
      Restored Environment.ofValue? Environment.toValue v ∧
      (∀ doc, PolicyDocument.ofValue? v = some doc → ∀ engine : Engine,
        Compiler.policyOfValue doc.toValue engine = Compiler.policyOfValue v engine) ∧
      ∀ doc, RoleDocument.ofValue? v = some doc → ∀ engine : Engine,
        Compiler.roleOfValue doc.toValue engine = Compiler.roleOfValue v engine := by
  have hrole {doc : RoleDocument} (h : RoleDocument.ofValue? v = some doc) :
      RoleDocument.ofValue? doc.toValue = some doc :=
    RoleDocument.ofValue?_toValue (RoleDocument.priority_of_ofValue? h)
  refine ⟨restored_of_read_write fun doc _ => doc.ofValue?_toValue,
    restored_of_read_write fun doc _ => doc.ofValue?_toValue,
    restored_of_read_write fun doc h => hrole h,
    restored_of_read_write fun claims h => Claims.ofValue?_toValue (Claims.plain_of_ofValue? hv h),
    restored_of_read_write fun environment h =>
      Environment.ofValue?_toValue (Environment.plain_of_ofValue? hv h),
    fun doc h engine => ?_, fun doc h engine => ?_⟩
  · rw [Compiler.policyOfValue_congr (doc.ofValue?_toValue.trans h.symm)]
  · rw [Compiler.roleOfValue_congr ((hrole h).trans h.symm)]

/-- A value that can be read in all five ways, with an effect as an object, a single resource, a
statement as a list, an instant, roles that are no texts and fields of every other kind. -/
theorem restored_of_wellFormed_shared :
    let v : Value := .object [("id", .string "sales"), ("effect", .object [("Allow", .null)]),
      ("resource", .string "account:*"), ("condition", .null), ("allow", .object []),
      ("statements", .array [.array [.null, .string "Deny", .array [.string "a"]]]),
      ("priority", .ofInt (-5)), ("exp", .ofInt 1700000000), ("org", .null),
      ("orgPath", .array [.string "root"]), ("roles", .array [.string "sales", .ofInt 3]),
      ("Token", .null)]
    v.WellFormed ∧
      (∃ doc, StatementDocument.ofValue? v = some doc ∧
        StatementDocument.ofValue? doc.toValue = some doc ∧ doc.resource = ["account:*"]) ∧
      (∃ doc, PolicyDocument.ofValue? v = some doc ∧
        PolicyDocument.ofValue? doc.toValue = some doc ∧ doc.statements.length = 1) ∧
      (∃ doc, RoleDocument.ofValue? v = some doc ∧
        RoleDocument.ofValue? doc.toValue = some doc ∧ doc.priority = -5) ∧
      (∃ claims, Claims.ofValue? v = some claims ∧
        Claims.ofValue? claims.toValue = some claims ∧ claims.roles = ["sales"]) ∧
      ∃ environment, Environment.ofValue? v = some environment ∧
        Environment.ofValue? environment.toValue = some environment ∧
        environment.token = none := by
  intro v
  have hv : v.WellFormed := by
    simp [v, Value.WellFormed, Value.AllWellFormed, Value.FieldsWellFormed, Entries.keys,
      Value.ofInt]
  obtain ⟨hstatement, hpolicy, hrole, hclaims, henvironment, -⟩ := restored_of_wellFormed v hv
  exact ⟨hv, ⟨_, rfl, hstatement.read_write _ rfl, rfl⟩, ⟨_, rfl, hpolicy.read_write _ rfl, rfl⟩,
    ⟨_, rfl, hrole.read_write _ rfl, rfl⟩, ⟨_, rfl, hclaims.read_write _ rfl, rfl⟩,
    ⟨_, rfl, henvironment.read_write _ rfl, rfl⟩⟩

end AccessPolicy
