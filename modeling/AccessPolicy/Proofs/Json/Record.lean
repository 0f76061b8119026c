import AccessPolicy.Json.Record
import AccessPolicy.Proofs.Entries
import Mathlib.Data.List.Nodup
import Mathlib.Data.Option.Basic

/-!
# Fields of records

What a lookup finds in maps that are put together, filtered or written to, and how a field that
is read relates to a field that is written. A field of an optional kind is left out or null where
nothing was read of it; otherwise it holds what would be written for what was read
(`Entries.getD_of_optional?`). Records with many such fields list them together with how their
values are read and written (`OptionalField`), so that what holds of one field holds of all.
-/

namespace AccessPolicy

namespace Entries

section Lookup

variable {κ α : Type} [DecidableEq κ] {entries more : Entries κ α}

theorem get?_append (key : κ) (entries more : Entries κ α) :
    get? key (entries ++ more) = (get? key entries).or (get? key more) := by
  induction entries with
  | nil => simp [get?]
  | cons entry rest ih =>
    obtain ⟨k, a⟩ := entry
    by_cases h : k = key <;> simp [get?, h, ih]

/-- A key that does not stand in a map has no value there. -/
theorem get?_of_not_mem_keys {key : κ} (h : key ∉ keys entries) : get? key entries = none := by
  rw [mem_keys_iff] at h
  exact Option.eq_none_iff_forall_ne_some.2 fun value found => h ⟨value, found⟩

/-- A map that keeps the entries of some keys answers for these keys alone. -/
theorem get?_filter (p : κ → Bool) (key : κ) (entries : Entries κ α) :
    get? key (entries.filter fun entry => p entry.1) =
      if p key then get? key entries else none := by
  induction entries with
  | nil => simp [get?]
  | cons entry rest ih =>
    obtain ⟨k, a⟩ := entry
    by_cases hkey : k = key
    · subst hkey
      by_cases hp : p k = true <;> simp [get?, hp, ih]
    · by_cases hp : p k = true <;> simp [get?, hp, hkey, ih]

theorem get?_erase (key other : κ) (entries : Entries κ α) :
    get? key (erase other entries) = if key = other then none else get? key entries := by
  have h := get?_filter (fun k => decide (k ≠ other)) key entries
  simpa [erase] using h

/-- A field that may be missing has the value that it was written with. -/
theorem get?_toList_map {β : Type} (key name : κ) (f : β → α) (o : Option β) :
    get? key (o.map fun b => (name, f b)).toList = if name = key then o.map f else none := by
  cases o <;> simp [get?]

/-- Of entries that may be missing, the first one of a name decides alone if names differ. -/
theorem get?_flatMap_toList {slots : Entries κ (Option α)} (hnodup : (keys slots).Nodup)
    (key : κ) : get? key (slots.flatMap fun slot => (slot.2.map (slot.1, ·)).toList) =
      (get? key slots).join := by
  induction slots with
  | nil => rfl
  | cons slot slots ih =>
    obtain ⟨name, value⟩ := slot
    obtain ⟨hname, hnodup⟩ := List.nodup_cons.1 hnodup
    have hslot : get? key (value.map (name, ·)).toList = if name = key then value else none := by
      cases value <;> simp [get?]
    rw [List.flatMap_cons, get?_append, hslot, ih hnodup]
    by_cases hkey : name = key
    · subst hkey
      have hrest : get? name slots = none := get?_of_not_mem_keys hname
      simp [get?, hrest]
    · simp [get?, hkey]

end Lookup

/-! ### Reading a field and writing it -/

/-- A record that is read field by field is read if the first field is and, with what that field
holds, the others are. This is `Option.bind_eq_some_iff` for `do` blocks. -/
theorem read_bind_eq_some_iff {α β : Type} {x : Option α} {f : α → Option β} {b : β} :
    (x >>= f) = some b ↔ ∃ a, x = some a ∧ f a = some b :=
  Option.bind_eq_some_iff

section Fields

variable {α : Type} {name : String} {read? : Value → Option α} {write : α → Value}
  {fields : Fields} {o : Option α}

/-- What a field of an optional kind was read as is what the field holds. -/
theorem exists_of_optional? (h : optional? name (Value.nullable? read?) none fields = some o)
    {a : α} (ha : o = some a) : ∃ v, get? name fields = some v ∧ read? v = some a := by
  unfold optional? at h
  split at h
  next v found =>
    unfold Value.nullable? at h
    split at h
    next => cases h.trans (congrArg some ha)
    next =>
      obtain ⟨b, hread, hb⟩ := Option.map_eq_some_iff.1 h
      obtain rfl : b = a := Option.some.inj (hb.trans ha)
      exact ⟨v, found, hread⟩
  next => cases h.trans (congrArg some ha)

/-- If writing undoes reading, then a field of an optional kind holds what would be written for
what was read of it, where a field that is left out counts as null. -/
theorem getD_of_optional? (hwrite : ∀ {v a}, read? v = some a → write a = v)
    (h : optional? name (Value.nullable? read?) none fields = some o) :
    (o.map write).getD .null = (get? name fields).getD .null := by
  unfold optional? at h
  split at h
  next v found =>
    rw [found]
    unfold Value.nullable? at h
    split at h
    next hnull =>
      obtain rfl := Option.some.inj h
      cases v <;> first | rfl | cases hnull
    next =>
      obtain ⟨a, hread, rfl⟩ := Option.map_eq_some_iff.1 h
      exact hwrite hread
  next found =>
    rw [found, ← Option.some.inj h]
    rfl

/-- A field of an optional kind is read as what it was written for, if that can be read. -/
theorem optional?_of_map (hread : ∀ a, o = some a → read? (write a) = some a)
    (hnull : ∀ a, (write a).isNull = false) (h : get? name fields = o.map write) :
    optional? name (Value.nullable? read?) none fields = some o := by
  unfold optional?
  rw [h]
  cases o with
  | none => rfl
  | some a => simp [Value.nullable?, hnull, hread a rfl]

end Fields

end Entries

/-! ### Lists of fields -/

/-- How the values of a field are read and written. What is read is written as it was. -/
structure FieldKind (α : Type) where
  /-- What a value is read as. -/
  read? : Value → Option α
  /-- The value that is written. -/
  write : α → Value
  /-- What was read is written as the value that it was read from. -/
  write_of_read? : ∀ {v a}, read? v = some a → write a = v
  /-- Nothing is written as null. -/
  isNull_write : ∀ a, (write a).isNull = false

/-- A field that may be missing, with what a record holds of it. -/
structure OptionalField where
  /-- The name of the field. -/
  name : String
  /-- What the field holds. -/
  {α : Type}
  /-- How it is read and written. -/
  kind : FieldKind α
  /-- What the record holds. -/
  held : Option α

namespace OptionalField

variable {field : OptionalField} {fields : Fields}

/-- What the record holds was read from some fields. -/
def IsRead (field : OptionalField) (fields : Fields) : Prop :=
  Entries.optional? field.name (Value.nullable? field.kind.read?) none fields = some field.held

/-- What is written of the field, unless it is left out. -/
def value? (field : OptionalField) : Option Value :=
  field.held.map field.kind.write

/-- What the record holds can be read from what is written of it. -/
def Readable (field : OptionalField) : Prop :=
  ∀ a, field.held = some a → field.kind.read? (field.kind.write a) = some a

theorem IsRead.readable (h : field.IsRead fields) : field.Readable := by
  intro a ha
  obtain ⟨v, -, hread⟩ := Entries.exists_of_optional? h ha
  rwa [field.kind.write_of_read? hread]

/-- A field that was read is written as what it was read from, where a field that is left out
counts as null. -/
theorem IsRead.getD_value? (h : field.IsRead fields) :
    field.value?.getD .null = (Entries.get? field.name fields).getD .null :=
  Entries.getD_of_optional? field.kind.write_of_read? h

/-- A field that can be read is read back. -/
theorem Readable.isRead (h : field.Readable)
    (hvalue : Entries.get? field.name fields = field.value?) : field.IsRead fields :=
  Entries.optional?_of_map h field.kind.isNull_write hvalue

end OptionalField

end AccessPolicy
