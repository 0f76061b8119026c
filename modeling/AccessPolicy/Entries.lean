/-!
# Entries in order

Finite maps as lists of entries. Writing to a key that is present keeps its position and
replaces its value; a new key goes to the end. A lookup finds the first entry of a key, so a list
in which no key repeats is a map.
-/

namespace AccessPolicy

/-- Keys with their values, in order. -/
abbrev Entries (κ α : Type) := List (κ × α)

namespace Entries

variable {κ α : Type} [DecidableEq κ]

/-- The value of a key. -/
def get? (key : κ) : Entries κ α → Option α
  | [] => none
  | (k, a) :: rest => if k = key then some a else get? key rest

/-- Writes the value of a key. -/
def insert (key : κ) (value : α) : Entries κ α → Entries κ α
  | [] => [(key, value)]
  | (k, a) :: rest => if k = key then (k, value) :: rest else (k, a) :: insert key value rest

/-- Writes entries one after the other. -/
def insertAll (entries : Entries κ α) (more : Entries κ α) : Entries κ α :=
  more.foldl (fun acc entry => insert entry.1 entry.2 acc) entries

/-- The map that a list of entries writes. -/
def ofList (entries : List (κ × α)) : Entries κ α :=
  insertAll [] entries

/-- The entries of all other keys. -/
def erase (key : κ) (entries : Entries κ α) : Entries κ α :=
  entries.filter fun entry => entry.1 ≠ key

/-- The keys, in order. -/
def keys (entries : Entries κ α) : List κ :=
  entries.map (·.1)

/-- The keys are those that have a value. -/
theorem mem_keys_iff {key : κ} {entries : Entries κ α} :
    key ∈ keys entries ↔ ∃ value, get? key entries = some value := by
  induction entries with
  | nil => simp [keys, get?]
  | cons entry rest ih =>
    obtain ⟨k, a⟩ := entry
    by_cases h : k = key
    · simp [keys, get?, h]
    · simpa [keys, get?, h, Ne.symm h] using ih

/-- A key that was just written has the written value. -/
theorem get?_insert_self (key : κ) (value : α) (entries : Entries κ α) :
    get? key (insert key value entries) = some value := by
  induction entries with
  | nil => simp [insert, get?]
  | cons entry rest ih =>
    obtain ⟨k, a⟩ := entry
    by_cases h : k = key <;> simp [insert, get?, h, ih]

/-- Writing one key leaves the others alone. -/
theorem get?_insert_of_ne {key other : κ} (h : other ≠ key) (value : α) (entries : Entries κ α) :
    get? other (insert key value entries) = get? other entries := by
  induction entries with
  | nil => simp [insert, get?, Ne.symm h]
  | cons entry rest ih =>
    obtain ⟨k, a⟩ := entry
    by_cases hk : k = key
    · subst hk
      simp [insert, get?, Ne.symm h]
    · simp [insert, get?, hk, ih]

/-- Writing one key makes a map longer by one entry at most. -/
theorem length_insert_le (key : κ) (value : α) (entries : Entries κ α) :
    (insert key value entries).length ≤ entries.length + 1 := by
  induction entries with
  | nil => exact Nat.le_refl 1
  | cons entry rest ih =>
    rw [insert]
    split
    · exact Nat.le_succ _
    · exact Nat.succ_le_succ ih

end Entries

end AccessPolicy
