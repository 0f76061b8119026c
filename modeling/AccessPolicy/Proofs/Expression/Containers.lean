import AccessPolicy.Proofs.Expression.Objects
import AccessPolicy.Proofs.Text.Pieces

/-!
# Containers

A field whose name begins with `@container` stands for the fields of other objects. They take its
place (`Expr.TakesPlace`) exactly if its value is an object, or a list that is written as one
(`Expr.container_merges_iff`). A list that is read or comes from a repeated object does not: it is
the value of a field with the name of the container.
-/

namespace AccessPolicy

theorem FieldRole.ofName_container {name : String}
    (h : "@container".toList <+: name.toList) : FieldRole.ofName name = .container := by
  obtain ⟨rest, hname⟩ := h
  rw [FieldRole.ofName, ← hname, Text.dropFront?_append_self]
  rfl

namespace Value

/-- A list is no value of a field of the objects in it. -/
theorem ne_of_mem_members {items : List Value} {entry : String × Value}
    (h : entry ∈ (Value.array items).members) : entry.2 ≠ .array items := by
  obtain ⟨item, hitem, hentry⟩ := List.mem_flatMap.1 h
  intro heq
  -- A value of a field is smaller than the list that its object stands in.
  have hsize : sizeOf entry.2 < sizeOf items := by
    cases item with
    | object fields =>
      have hfields := List.sizeOf_lt_of_mem hitem
      have hfield := List.sizeOf_lt_of_mem (show entry ∈ fields from hentry)
      obtain ⟨name, v⟩ := entry
      simp only [Value.object.sizeOf_spec, Prod.mk.sizeOf_spec] at hfields hfield ⊢
      omega
    | _ => cases hentry
  rw [heq, Value.array.sizeOf_spec] at hsize
  omega

end Value

namespace Expr

variable {context : Context} {name : String} {expr : Expr} {v : Value}

/-- Some entries take the place of a field. Where the field stands in an object of fields that
have values, the object is written from the entries of the fields in front of it, these entries
and those of the fields behind it. The object may be that of an item of a list; without a list it
is the whole object if its guard passes. -/
def TakesPlace (context : Context) (name : String) (expr : Expr) (entries : Fields) : Prop :=
  ∀ front back before after, (allEntries context front).result = .ok before →
    (allEntries context back).result = .ok after →
    let parent := front ++ (name, expr) :: back
    Entries.get? valueField parent = none →
    ∃ out, Entries.IsWritten (before ++ entries ++ after) out ∧
      (eval context (unsteered parent)).result = .ok (.object out) ∧
      (GuardPasses context parent → Entries.get? repeatField parent = none →
        (eval context (.object parent)).result = .ok (.object out))

/-- The entries of a container take its place. -/
theorem takesPlace_entriesOf (hname : FieldRole.ofName name = .container)
    (hv : (eval context expr).result = .ok v) :
    TakesPlace context name expr (entriesOf .container name expr v) := by
  intro front back before after hfront hback parent hwhole
  have hadded : (addedEntries context name expr).result =
      .ok (entriesOf .container name expr v) := by
    rw [result_addedEntries (by simp [hname]) hv, hname, if_neg (by decide)]
  have hparent : (allEntries context parent).result =
      .ok (before ++ entriesOf .container name expr v ++ after) := by
    simp only [parent, allEntries_append, allEntries_cons, Outcome.result_bind, hfront, hback,
      hadded, List.append_assoc]
    rfl
  have hout : (eval context (unsteered parent)).result =
      .ok (.object (Entries.ofList (before ++ entriesOf .container name expr v ++ after))) := by
    rw [eval_unsteered, result_evalOnce, hwhole, render_eq]
    simp [hparent, Entries.ofList]
  refine ⟨_, Entries.isWritten_ofList _, hout, fun hguard hrepeat => ?_⟩
  rw [result_eval_object hguard, hrepeat]
  exact hout

theorem entriesOf_of_isMerged (h : expr.isMerged v = true) :
    entriesOf .container name expr v = v.members :=
  if_pos ⟨rfl, h⟩

theorem entriesOf_of_not_isMerged (h : ¬expr.isMerged v = true) (hnull : v.isNull = false) :
    entriesOf .container name expr v = [(name, v)] := by
  rw [entriesOf, if_neg fun hmerged => h hmerged.2, hnull, Bool.and_false]
  rfl

/-- The fields of the objects in a list do not take the place of a container with the list for
its value: they do not have the list for a value themselves. -/
theorem not_takesPlace_members {items : List Value} (hname : "@container".toList <+: name.toList)
    (hv : (eval context expr).result = .ok (.array items)) (h : expr.isArray = false) :
    ¬TakesPlace context name expr (Value.array items).members := by
  intro htakes
  -- An object with no other fields comes to the list under the name of the container.
  have hrole := FieldRole.ofName_container hname
  have hinserted := takesPlace_entriesOf hrole hv
  rw [entriesOf_of_not_isMerged (by simp [isMerged, h]) rfl] at hinserted
  have hwhole : Entries.get? valueField [(name, expr)] = none := by
    have hne : name ≠ valueField := by
      rintro rfl
      revert hname
      decide
    simp [Entries.get?, hne]
  obtain ⟨out, hout, heval, -⟩ := htakes [] [] [] [] rfl rfl hwhole
  obtain ⟨out', hout', heval', -⟩ := hinserted [] [] [] [] rfl rfl hwhole
  obtain rfl : out = out' := by simpa using heval.symm.trans heval'
  -- What stands under the name is the list, but can only come from one of its objects.
  have hget : ((Value.array items).members.findRev? fun entry => entry.1 = name).map (·.2) =
      some (.array items) := by
    simpa [List.findRev?] using (hout.get?_eq name).symm.trans (hout'.get?_eq name)
  obtain ⟨entry, hfound, hvalue⟩ := Option.map_eq_some_iff.1 hget
  exact Value.ne_of_mem_members (Entries.mem_and_of_findRev? hfound).1 hvalue

/-- Let the value of a container be an object or a list. The fields of the object, or of the
objects in the list, take the place of the container exactly if it is an object or the container
is written as a list. Otherwise the list becomes the value of a field with the name of the
container. -/
theorem container_merges_iff (hname : "@container".toList <+: name.toList)
    (hv : (eval context expr).result = .ok v)
    (hkind : (∃ child, v = .object child) ∨ ∃ items, v = .array items) :
    (TakesPlace context name expr v.members ↔
      (∃ child, v = .object child) ∨ expr.isArray = true) ∧
    (¬((∃ child, v = .object child) ∨ expr.isArray = true) →
      TakesPlace context name expr [(name, v)]) := by
  have htakes := takesPlace_entriesOf (FieldRole.ofName_container hname) hv
  rcases hkind with ⟨child, rfl⟩ | ⟨items, rfl⟩
  · rw [entriesOf_of_isMerged rfl] at htakes
    exact ⟨⟨fun _ => .inl ⟨child, rfl⟩, fun _ => htakes⟩, fun h => absurd (.inl ⟨child, rfl⟩) h⟩
  · have hlist : ¬∃ child, Value.array items = .object child := by
      rintro ⟨child, h⟩
      cases h
    cases harray : expr.isArray with
    | true =>
      have hmerged : expr.isMerged (.array items) = true := harray
      rw [entriesOf_of_isMerged hmerged] at htakes
      exact ⟨⟨fun _ => .inr rfl, fun _ => htakes⟩, fun h => absurd (.inr rfl) h⟩
    | false =>
      rw [entriesOf_of_not_isMerged (by simp [isMerged, harray]) rfl] at htakes
      refine ⟨⟨fun h => absurd h (not_takesPlace_members hname hv harray), ?_⟩, fun _ => htakes⟩
      rintro (h | h)
      · exact absurd h hlist
      · cases h

/-- The objects in a written list take the place of a container behind a field that one of them
has too. It keeps its place and gets their value. -/
theorem container_merges_written_list :
    let context : Context := { now := ⟨0, 0, by decide, by decide⟩, sample := .zero false }
    let v : Value := .array [.object [("a", .bool true), ("b", .null)], .null,
      .object [("c", .null), ("a", .bool false)]]
    let list : Expr := .array [.const (.object [("a", .bool true), ("b", .null)]), .const .null,
      .const (.object [("c", .null), ("a", .bool false)])]
    let parent := [("c", .const (.bool true)), ("@container2", list), ("b", .const (.bool false))]
    "@container".toList <+: "@container2".toList ∧ (eval context list).result = .ok v ∧
      (eval context (.object parent)).result =
        .ok (.object [("c", .null), ("a", .bool false), ("b", .bool false)]) ∧
      ∃ out, Entries.IsWritten ([("c", .bool true)] ++ v.members ++ [("b", .bool false)]) out ∧
        (eval context (.object parent)).result = .ok (.object out) := by
  intro context v list parent
  have hname : "@container".toList <+: "@container2".toList := by decide
  have hv : (eval context list).result = .ok v := rfl
  have htakes := (container_merges_iff hname hv (.inr ⟨_, rfl⟩)).1.2 (.inr rfl)
  obtain ⟨out, hout, -, hparent⟩ := htakes [("c", .const (.bool true))]
    [("b", .const (.bool false))] _ _ rfl rfl rfl
  have hguard : GuardPasses context parent := by
    intro guard h
    cases h
  exact ⟨hname, hv, rfl, out, hout, hparent hguard rfl⟩

/-- A repeated object does not take the place of a container. -/
theorem container_keeps_repeated :
    let context : Context := { now := ⟨0, 0, by decide, by decide⟩, sample := .zero false }
    let repeated : Expr := .object [("@repeat", .const (.array [.ofNat 1, .ofNat 2])),
      ("k", .text (.single (.lookup ⟨"repeat", "item"⟩ (.variableField "repeat") [])))]
    let list := [Value.object [("k", .ofNat 1)], .object [("k", .ofNat 2)]]
    "@container".toList <+: "@container".toList ∧
      (eval context repeated).result = .ok (.array list) ∧
      (eval context (.object [("@container", repeated)])).result =
        .ok (.object [("@container", .array list)]) ∧
      ¬TakesPlace context "@container" repeated (Value.array list).members := by
  intro context repeated list
  have hv : (eval context repeated).result = .ok (.array list) := rfl
  exact ⟨List.prefix_refl _, hv, rfl, not_takesPlace_members (List.prefix_refl _) hv rfl⟩

end Expr

end AccessPolicy
