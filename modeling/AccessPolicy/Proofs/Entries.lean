import AccessPolicy.Entries
import Mathlib.Data.List.Induction

/-!
# Maps that are written entry by entry

A map that is written from a list of entries has each key once, where the list names it first
(`Entries.keys_ofList`), and under it what the list gives last (`Entries.get?_ofList`). Both
together are `Entries.IsWritten`.
-/

namespace AccessPolicy.Entries

variable {κ α β : Type} [DecidableEq κ]

theorem insertAll_append (entries more rest : Entries κ α) :
    insertAll entries (more ++ rest) = insertAll (insertAll entries more) rest :=
  List.foldl_append

theorem insertAll_flatMap (f : β → Entries κ α) (l : List β) (entries : Entries κ α) :
    insertAll entries (l.flatMap f) = l.foldl (fun out b => insertAll out (f b)) entries := by
  induction l generalizing entries with
  | nil => rfl
  | cons b l ih => rw [List.flatMap_cons, insertAll_append, ih, List.foldl_cons]

theorem ofList_append (entries more : Entries κ α) :
    ofList (entries ++ more) = insertAll (ofList entries) more :=
  insertAll_append [] entries more

theorem ofList_append_singleton (entries : Entries κ α) (entry : κ × α) :
    ofList (entries ++ [entry]) = insert entry.1 entry.2 (ofList entries) :=
  ofList_append entries [entry]

/-- The last element that passes a test is one of the elements and passes it. -/
theorem mem_and_of_findRev? {l : List β} {p : β → Bool} {b : β} (h : l.findRev? p = some b) :
    b ∈ l ∧ p b = true := by
  rw [List.findRev?_eq_find?_reverse] at h
  exact ⟨List.mem_reverse.1 (List.mem_of_find?_eq_some h), List.find?_some h⟩

/-- A map holds under a key what was written last under it. -/
theorem get?_ofList (key : κ) (entries : List (κ × α)) :
    get? key (ofList entries) = (entries.findRev? fun entry => entry.1 = key).map (·.2) := by
  induction entries using List.reverseRecOn with
  | nil => rfl
  | append_singleton entries entry ih =>
    rw [ofList_append_singleton, List.findRev?_eq_find?_reverse, List.reverse_append]
    by_cases hkey : entry.1 = key
    · subst hkey
      simp [get?_insert_self]
    · rw [get?_insert_of_ne (Ne.symm hkey), ih]
      simp [hkey]

/-- In a map in which no key repeats, a lookup finds exactly the entries. -/
theorem get?_eq_some_iff_mem {entries : Entries κ α} (hnodup : (keys entries).Nodup) {key : κ}
    {value : α} : get? key entries = some value ↔ (key, value) ∈ entries := by
  induction entries with
  | nil => simp [get?]
  | cons entry rest ih =>
    obtain ⟨k, a⟩ := entry
    obtain ⟨hk, hrest⟩ := List.nodup_cons.1 hnodup
    by_cases hkey : k = key
    · subst hkey
      have hnot : (k, value) ∉ rest := fun hmem => hk (List.mem_map.2 ⟨_, hmem, rfl⟩)
      simp [get?, hnot, eq_comm]
    · simp [get?, hkey, Ne.symm hkey, ih hrest]

/-- Writing a new key puts its entry at the end. -/
theorem insert_of_not_mem_keys {entries : Entries κ α} {key : κ} (h : key ∉ keys entries)
    (value : α) : insert key value entries = entries ++ [(key, value)] := by
  induction entries with
  | nil => rfl
  | cons entry rest ih =>
    obtain ⟨k, a⟩ := entry
    obtain ⟨hk, hrest⟩ : key ≠ k ∧ key ∉ keys rest := by simpa [keys] using h
    simp [insert, Ne.symm hk, ih hrest]

/-- Writing new keys, each of them once, puts their entries at the end. -/
theorem insertAll_of_disjoint {entries more : Entries κ α}
    (hnew : ∀ key ∈ keys more, key ∉ keys entries) (hnodup : (keys more).Nodup) :
    insertAll entries more = entries ++ more := by
  induction more generalizing entries with
  | nil => exact (List.append_nil entries).symm
  | cons entry more ih =>
    obtain ⟨key, value⟩ := entry
    obtain ⟨hkey, hrest⟩ := List.forall_mem_cons.1 hnew
    obtain ⟨hfresh, hnodup⟩ := List.nodup_cons.1 hnodup
    have hnext : ∀ other ∈ keys more, other ∉ keys (entries ++ [(key, value)]) := by
      intro other hother
      have hne : other ≠ key := fun h => hfresh (h ▸ hother)
      simpa [keys] using ⟨by simpa [keys] using hrest other hother, hne⟩
    change insertAll (insert key value entries) more = _
    rw [insert_of_not_mem_keys hkey, ih hnext hnodup, List.append_assoc, List.singleton_append]

/-- A list in which no key repeats is the map that it writes. -/
theorem ofList_of_nodup {entries : Entries κ α} (hnodup : (keys entries).Nodup) :
    ofList entries = entries :=
  insertAll_of_disjoint (fun _ _ => List.not_mem_nil) hnodup

/-- Writing a key that stands in one place only changes the entry in this place. -/
theorem insert_of_getElem?_keys {entries : Entries κ α} (hnodup : (keys entries).Nodup) {key : κ}
    {i : Nat} (h : (keys entries)[i]? = some key) (value : α) :
    insert key value entries = entries.set i (key, value) := by
  induction entries generalizing i with
  | nil => cases h
  | cons entry rest ih =>
    obtain ⟨k, a⟩ := entry
    obtain ⟨hk, hrest⟩ := List.nodup_cons.1 hnodup
    cases i with
    | zero =>
      obtain rfl : k = key := by simpa [keys] using h
      rw [insert, if_pos rfl, List.set_cons_zero]
    | succ i =>
      have htail : (keys rest)[i]? = some key := by simpa [keys] using h
      have hne : k ≠ key := fun same => hk (same ▸ List.mem_of_getElem? htail)
      rw [insert, if_neg hne, ih hrest htail, List.set_cons_succ]

/-- Writing a key that a map has keeps its keys; a new one comes behind them. -/
theorem keys_insert (key : κ) (value : α) (entries : Entries κ α) :
    keys (insert key value entries) =
      if key ∈ keys entries then keys entries else keys entries ++ [key] := by
  induction entries with
  | nil => rfl
  | cons entry rest ih =>
    obtain ⟨k, a⟩ := entry
    by_cases hkey : k = key
    · subst hkey
      simp [insert, keys]
    · have hkeys : keys (insert key value ((k, a) :: rest)) = k :: keys (insert key value rest) := by
        simp [insert, keys, hkey]
      have hmem : key ∈ keys ((k, a) :: rest) ↔ key ∈ keys rest := by
        simp [keys, Ne.symm hkey]
      rw [hkeys, ih]
      simp only [hmem]
      split
      · rfl
      · rfl

/-- A member is dropped at the end of a list exactly if it stands there before. -/
theorem eraseDups_append_singleton (l : List κ) (k : κ) :
    (l ++ [k]).eraseDups = if k ∈ l.eraseDups then l.eraseDups else l.eraseDups ++ [k] := by
  rw [List.eraseDups_append]
  simp only [List.mem_eraseDups]
  split
  next hmem => simp [List.removeAll, hmem]
  next hnew => simp [List.removeAll, hnew, List.eraseDups_cons]

/-- A map has each key once, where it is written first. -/
theorem keys_ofList (entries : List (κ × α)) :
    keys (ofList entries) = (keys entries).eraseDups := by
  induction entries using List.reverseRecOn with
  | nil => rfl
  | append_singleton entries entry ih =>
    have hkeys : keys (entries ++ [entry]) = keys entries ++ [entry.1] := List.map_append
    rw [ofList_append_singleton, keys_insert, ih, hkeys, eraseDups_append_singleton]

/-- A map has no value under a key exactly if none was written. -/
theorem get?_ofList_eq_none_iff {key : κ} {entries : List (κ × α)} :
    get? key (ofList entries) = none ↔ key ∉ keys entries := by
  rw [← List.mem_eraseDups, ← keys_ofList, mem_keys_iff]
  cases get? key (ofList entries) <;> simp

/-- The value of a key in a map is the last one that was written under it. -/
theorem get?_ofList_eq_some_iff {key : κ} {value : α} {entries : List (κ × α)} :
    get? key (ofList entries) = some value ↔
      ∃ before after, entries = before ++ (key, value) :: after ∧ key ∉ keys after := by
  rw [get?_ofList, List.findRev?_eq_find?_reverse, Option.map_eq_some_iff]
  constructor
  · rintro ⟨⟨k, a⟩, hfound, rfl⟩
    obtain ⟨hkey, after, before, hsplit, hlater⟩ := List.find?_eq_some_iff_append.1 hfound
    obtain rfl : k = key := of_decide_eq_true hkey
    refine ⟨before.reverse, after.reverse, ?_, ?_⟩
    · rw [← List.reverse_reverse entries, hsplit]
      simp
    · intro hmem
      obtain ⟨entry, hentry, hname⟩ := List.mem_map.1 hmem
      simpa [hname] using hlater entry (List.mem_reverse.1 hentry)
  · rintro ⟨before, after, rfl, hlater⟩
    refine ⟨(key, value), List.find?_eq_some_iff_append.2 ⟨by simp, after.reverse, before.reverse,
      by simp, fun entry hentry => ?_⟩, rfl⟩
    have hname : entry.1 ≠ key := fun hname =>
      hlater (List.mem_map.2 ⟨entry, List.mem_reverse.1 hentry, hname⟩)
    simpa using hname

/-- A map that was written from a list of entries: each key stands where the list names it first,
with the value that the list gives it last. -/
structure IsWritten (entries : List (κ × α)) (out : Entries κ α) : Prop where
  /-- Each key stands once, where it is named first. -/
  keys_eq : keys out = (keys entries).eraseDups
  /-- Later values replace earlier ones. -/
  get?_eq (key : κ) : get? key out = (entries.findRev? fun entry => entry.1 = key).map (·.2)

theorem isWritten_ofList (entries : List (κ × α)) : IsWritten entries (ofList entries) :=
  ⟨keys_ofList entries, fun key => get?_ofList key entries⟩

end AccessPolicy.Entries
