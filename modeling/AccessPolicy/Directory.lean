import AccessPolicy.Entries

/-!
# Directories

Named items in order. An array holds the items and a map the position of each name in it, so that
an item is found by its name without a search. An item that is added under a name that is taken
stands in the place of the one before; a new name goes to the end.
-/

namespace AccessPolicy

namespace Directory

variable {α : Type} {name : α → String} {items : Array α} {positions : Entries String Nat}

/-- The position of a name is the place where an item of that name stands. -/
def Indexed (name : α → String) (items : Array α) (positions : Entries String Nat) : Prop :=
  ∀ id i, Entries.get? id positions = some i ↔ items[i]?.map name = some id

/-- There are no positions where there are no items. -/
theorem indexed_empty (name : α → String) : Indexed name #[] [] := by
  intro id i
  simp [Entries.get?]

/-- A position never lies outside of the items. -/
theorem Indexed.lt_size (h : Indexed name items positions) {id : String} {i : Nat}
    (found : Entries.get? id positions = some i) : i < items.size := by
  obtain ⟨item, hitem, -⟩ := Option.map_eq_some_iff.1 ((h id i).1 found)
  exact (Array.getElem?_eq_some_iff.1 hitem).1

/-- An item may take the place of another one of its name. -/
theorem Indexed.set (h : Indexed name items positions) {item : α} {i : Nat}
    (found : Entries.get? (name item) positions = some i) :
    Indexed name (items.set i item (h.lt_size found)) positions := by
  intro id j
  rw [h id j, Array.getElem?_set]
  split
  next same =>
    subst same
    rw [(h _ _).1 found, Option.map_some]
  next => rfl

/-- An item of a new name may come behind the others, at the position that their number is. -/
theorem Indexed.push (h : Indexed name items positions) {item : α}
    (new : Entries.get? (name item) positions = none) :
    Indexed name (items.push item) (Entries.insert (name item) items.size positions) := by
  intro id j
  rw [Array.getElem?_push]
  by_cases same : id = name item
  · subst same
    rw [Entries.get?_insert_self, Option.some.injEq]
    split
    next last => simp [last]
    next inside =>
      -- None of the items before has the name.
      rw [← h, new]
      simp [Ne.symm inside]
  · rw [Entries.get?_insert_of_ne same, h id j]
    split
    next last => simp [last, Ne.symm same]
    next => rfl

end Directory

/-- Named items in order, with the position of each name. -/
structure Directory {α : Type} (name : α → String) where
  /-- The items. -/
  items : Array α := #[]
  /-- The positions of the names. -/
  positions : Entries String Nat := []
  /-- The positions are those of the items. -/
  indexed : Directory.Indexed name items positions := by exact Directory.indexed_empty _

namespace Directory

variable {α : Type} {name : α → String}

/-- The directory with one more item. -/
def add (directory : Directory name) (item : α) : Directory name :=
  match found : Entries.get? (name item) directory.positions with
  | some i =>
    { items := directory.items.set i item (directory.indexed.lt_size found)
      positions := directory.positions
      indexed := directory.indexed.set found }
  | none =>
    { items := directory.items.push item
      positions := Entries.insert (name item) directory.items.size directory.positions
      indexed := directory.indexed.push found }

/-- The directory of a list of items. -/
def ofList (name : α → String) (items : List α) : Directory name :=
  items.foldl add {}

/-- The item of a name. -/
def find? (directory : Directory name) (id : String) : Option α :=
  match found : Entries.get? id directory.positions with
  | some i =>
    have inside := directory.indexed.lt_size found
    some directory.items[i]
  | none => none

/-- The items by their names, in order. -/
def entries (directory : Directory name) : Entries String α :=
  directory.items.toList.map fun item => (name item, item)

end Directory

end AccessPolicy
