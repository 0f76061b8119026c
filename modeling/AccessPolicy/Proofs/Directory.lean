import AccessPolicy.Directory
import AccessPolicy.Proofs.Entries
import Mathlib.Data.List.Nodup

/-!
# What directories hold

A directory finds each of its items by its name, and no name stands for two of them
(`Directory.find?_eq_some_iff`, `Directory.nodup_names`). Adding items one by one writes their
entries as a map does (`Directory.entries_add`), so the directory of a list has each name once,
where the list has it first, with the item that bears it last (`Directory.serves_ofList`).
-/

namespace AccessPolicy.Directory

variable {α : Type} {name : α → String} {directory : Directory name}

/-! ### Positions -/

/-- The position of a name is that of an item with this name. -/
theorem name_getElem {id : String} {i : Nat} (h : i < directory.items.size)
    (found : Entries.get? id directory.positions = some i) : name directory.items[i] = id := by
  have hname := (directory.indexed id i).1 found
  rw [Array.getElem?_eq_getElem h] at hname
  exact Option.some.inj hname

/-- The name of every item has the position of the item. -/
theorem get?_positions_name {i : Nat} (h : i < directory.items.size) :
    Entries.get? (name directory.items[i]) directory.positions = some i := by
  rw [directory.indexed, Array.getElem?_eq_getElem h, Option.map_some]

/-- An item is found by its name, and nothing else is. -/
theorem find?_eq_some_iff {id : String} {item : α} :
    directory.find? id = some item ↔ item ∈ directory.items ∧ name item = id := by
  rw [find?]
  split
  next i found =>
    rw [Option.some.injEq]
    constructor
    · rintro rfl
      exact ⟨Array.getElem_mem _, name_getElem _ found⟩
    · rintro ⟨hitem, rfl⟩
      -- The name has a single position, so no other item bears it.
      obtain ⟨j, hj, rfl⟩ := Array.getElem_of_mem hitem
      obtain rfl : i = j := Option.some.inj (found.symm.trans (get?_positions_name hj))
      rfl
  next new =>
    refine iff_of_false (by simp) ?_
    rintro ⟨hitem, rfl⟩
    obtain ⟨j, hj, rfl⟩ := Array.getElem_of_mem hitem
    cases new.symm.trans (get?_positions_name hj)

/-! ### Entries -/

theorem keys_entries (directory : Directory name) :
    Entries.keys directory.entries = directory.items.toList.map name := by
  rw [Entries.keys, entries, List.map_map]
  rfl

/-- No name stands for two items. -/
theorem nodup_names (directory : Directory name) :
    (directory.items.toList.map name).Nodup := by
  rw [List.nodup_iff_getElem?_ne_getElem?]
  intro i j hij hj hsame
  rw [List.length_map, Array.length_toList] at hj
  have hi := Nat.lt_trans hij hj
  simp only [List.getElem?_map, Array.getElem?_toList, Array.getElem?_eq_getElem hi,
    Array.getElem?_eq_getElem hj, Option.map_some, Option.some.injEq] at hsame
  have hposition := get?_positions_name hi
  rw [hsame, get?_positions_name hj] at hposition
  exact Nat.ne_of_gt hij (Option.some.inj hposition)

theorem nodup_keys_entries (directory : Directory name) :
    (Entries.keys directory.entries).Nodup := by
  rw [keys_entries]
  exact directory.nodup_names

/-- Finding an item is looking for its entry. -/
theorem find?_eq_get?_entries (directory : Directory name) (id : String) :
    directory.find? id = Entries.get? id directory.entries := by
  ext item
  rw [find?_eq_some_iff, Entries.get?_eq_some_iff_mem directory.nodup_keys_entries, entries]
  simp [and_comm]

/-- Adding an item writes its entry. -/
theorem entries_add (directory : Directory name) (item : α) :
    (directory.add item).entries = Entries.insert (name item) item directory.entries := by
  rw [add]
  split
  next i found =>
    have hkey : (Entries.keys directory.entries)[i]? = some (name item) := by
      rw [keys_entries, List.getElem?_map, Array.getElem?_toList]
      exact (directory.indexed _ _).1 found
    rw [Entries.insert_of_getElem?_keys directory.nodup_keys_entries hkey, entries,
      Array.toList_set, List.map_set]
    rfl
  next new =>
    have hkey : name item ∉ Entries.keys directory.entries := by
      rw [keys_entries, List.mem_map]
      rintro ⟨other, hother, hname⟩
      obtain ⟨j, hj, rfl⟩ := Array.getElem_of_mem (Array.mem_toList_iff.1 hother)
      rw [← hname, get?_positions_name hj] at new
      cases new
    rw [Entries.insert_of_not_mem_keys hkey, entries, Array.toList_push, List.map_append]
    rfl

theorem ofList_append_singleton (items : List α) (item : α) :
    ofList name (items ++ [item]) = (ofList name items).add item :=
  List.foldl_append

/-- The directory of a list has the entries that the list writes. -/
theorem entries_ofList (name : α → String) (items : List α) :
    (ofList name items).entries = Entries.ofList (items.map fun item => (name item, item)) := by
  induction items using List.reverseRecOn with
  | nil => rfl
  | append_singleton items item ih =>
    rw [ofList_append_singleton, entries_add, ih, List.map_append, List.map_singleton,
      Entries.ofList_append_singleton]

/-! ### Definitions -/

variable (given : List α)

/-- The item of a name is the last one that was given under it. -/
theorem find?_ofList (id : String) :
    (ofList name given).find? id = given.findRev? fun item => name item = id := by
  rw [find?_eq_get?_entries, entries_ofList, Entries.get?_ofList]
  simp [← List.map_reverse, List.find?_map, Function.comp_def]

/-- Each name stands where it was given first. -/
theorem names_ofList : (ofList name given).items.toList.map name = (given.map name).eraseDups := by
  rw [← keys_entries, entries_ofList, Entries.keys_ofList, Entries.keys, List.map_map]
  rfl

/-- A directory serves what was given in a list, where the last item of a name counts and stands
in the place of the first. -/
structure Serves (given : List α) (directory : Directory name) (find? : String → Option α) :
    Prop where
  /-- Each name that was given stands once, in the order in which the names were given first. -/
  names_eq : directory.items.toList.map name = (given.map name).eraseDups
  /-- No name stands twice. -/
  nodup_names : (directory.items.toList.map name).Nodup
  /-- Each item is the last one that was given under its name. -/
  last_given : ∀ item ∈ directory.items,
    (given.findRev? fun other => name other = name item) = some item
  /-- Each position lies within the items, and the item there bears the name. -/
  inside : ∀ id i, Entries.get? id directory.positions = some i →
    ∃ h : i < directory.items.size, name directory.items[i] = id
  /-- What is found under a name is the item with this name. -/
  find?_eq_some_iff : ∀ id item, find? id = some item ↔ item ∈ directory.items ∧ name item = id
  /-- Nothing is found under a name that was not given, and under no other. -/
  find?_eq_none_iff : ∀ id, find? id = none ↔ ∀ item ∈ given, name item ≠ id

/-- The directory of a list serves what is in the list. -/
theorem serves_ofList : (ofList name given).Serves given (ofList name given).find? where
  names_eq := names_ofList given
  nodup_names := nodup_names _
  last_given item hitem := by
    rw [← find?_ofList]
    exact find?_eq_some_iff.2 ⟨hitem, rfl⟩
  inside id i found := ⟨(ofList name given).indexed.lt_size found, name_getElem _ found⟩
  find?_eq_some_iff id item := find?_eq_some_iff
  find?_eq_none_iff id := by
    rw [find?_ofList, List.findRev?_eq_find?_reverse]
    simp

end AccessPolicy.Directory
