import AccessPolicy.Json.Value

/-!
# Tables of TOML

Tables grow line by line. Headers open tables, which may hold tables that were named by longer
headers before; the parts of a key with points make tables too. No value is written twice, no
table is opened twice, and keys add only to tables that keys have made.
-/

namespace AccessPolicy.Toml

/-- How a table came about. -/
inductive Origin where
  /-- By a header of its own. -/
  | header
  /-- By the header of a table within it. -/
  | implied
  /-- By a key with points. -/
  | key
deriving DecidableEq

/-- What stands under a key. -/
inductive Item where
  /-- A value. -/
  | value (v : Value)
  /-- A table with its items. -/
  | table (origin : Origin) (items : List (String × Item))
  /-- A list of tables: the finished ones, and the items of the last one. -/
  | tables (finished : List Value) (items : List (String × Item))

/-- The items of a table. -/
abbrev Items := Entries String Item

mutual

/-- The value that an item stands for. -/
def Item.toValue : Item → Value
  | .value v => v
  | .table _ items => .object (itemsToFields items)
  | .tables finished items => .array (finished ++ [.object (itemsToFields items)])

/-- The fields that items stand for. -/
def itemsToFields : List (String × Item) → Fields
  | [] => []
  | (name, item) :: rest => (name, item.toValue) :: itemsToFields rest

end

namespace Items

/-- Changes the items of the table at a path, where lists stand for their last tables. Where
`create` gives an origin, missing tables are made. Where `byKey` holds, tables with headers of
their own are refused. -/
def update (create : Option Origin) (byKey : Bool) (change : Items → Option Items) :
    (path : List String) → Items → Option Items
  | [], items => change items
  | name :: path, items =>
    match Entries.get? name items, create with
    | none, none => none
    | none, some origin => do
      let inner ← update create byKey change path []
      return Entries.insert name (.table origin inner) items
    | some (.table origin inner), _ =>
      if byKey && origin = .header then none
      else do
        let inner ← update create byKey change path inner
        return Entries.insert name (.table origin inner) items
    | some (.tables finished inner), _ => do
      let inner ← update create byKey change path inner
      return Entries.insert name (.tables finished inner) items
    | some (.value _), _ => none

/-- Writes a value under a new name. -/
def addNew (name : String) (item : Item) (items : Items) : Option Items :=
  match Entries.get? name items with
  | none => some (Entries.insert name item items)
  | some _ => none

/-- Whether the last table on a path is still missing or was made by a key. -/
def madeByKey : (path : List String) → Items → Bool
  | [], _ => true
  | [name], items =>
    match Entries.get? name items with
    | none => true
    | some (.table .key _) => true
    | some _ => false
  | name :: path, items =>
    match Entries.get? name items with
    | some (.table _ inner) => madeByKey path inner
    | some (.tables _ inner) => madeByKey path inner
    | _ => true

/-- Writes a value under a key with points: all parts but the last name tables, the last of which
a key must have made. -/
def addValue (key : List String) (v : Value) (items : Items) : Option Items :=
  let path := key.dropLast
  if madeByKey path items then
    update (some .key) true (addNew (key.getLast?.getD "") (.value v)) path items
  else none

/-- Opens the table of a header. -/
def open? (key : List String) (items : Items) : Option Items :=
  let name := key.getLast?.getD ""
  let change (items : Items) : Option Items :=
    match Entries.get? name items with
    | none => some (Entries.insert name (.table .header []) items)
    | some (.table .implied inner) => some (Entries.insert name (.table .header inner) items)
    | some _ => none
  update (some .implied) false change key.dropLast items

/-- Opens the next table of a list. -/
def openNext? (key : List String) (items : Items) : Option Items :=
  let name := key.getLast?.getD ""
  let change (items : Items) : Option Items :=
    match Entries.get? name items with
    | none => some (Entries.insert name (.tables [] []) items)
    | some (.tables finished last) =>
      some (Entries.insert name
        (.tables (finished ++ [.object (itemsToFields last)]) []) items)
    | some _ => none
  update (some .implied) false change key.dropLast items

end Items

end AccessPolicy.Toml
