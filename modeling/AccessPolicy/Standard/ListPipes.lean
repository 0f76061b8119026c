import AccessPolicy.Expression.Pipe
import AccessPolicy.Json.Coercion

/-!
# Pipes on lists

Picking items of a list, and ranges of the items of a list or the characters of a text. A range is
computed as a window by arithmetic on counts, which fails where a result does not have 64 bits.
-/

namespace AccessPolicy.Standard

/-- The transformation of lists; other values stay as they are. -/
def onList (f : List Value → Value) : Transform :=
  .pure fun v =>
    match v with
    | .array items => f items
    | v => v

/-! ### Windows

Positions and numbers of items have 64 bits. A window is computed from its bounds and the length of
what it is for, by sums and differences that must have 64 bits too.
-/

/-- A sum or a difference that does not have 64 bits. -/
inductive Overflow where
  /-- A sum is too large. -/
  | above
  /-- More is subtracted than there is. -/
  | below
deriving DecidableEq

/-- The sum of two counts. -/
def addCounts (m n : Nat) : Except Overflow Nat :=
  if m + n < Nat.pow 2 64 then .ok (m + n) else .error .above

/-- The difference of two counts. -/
def subtractCounts (m n : Nat) : Except Overflow Nat :=
  if n ≤ m then .ok (m - n) else .error .below

/-- A part of a list. -/
structure Window where
  /-- The number of items in front of the part. -/
  skipped : Nat
  /-- The most items that the part has. -/
  kept : Nat

/-- The window from one position up to another, which is left out. -/
def Window.ofRange (start stop : Nat) : Window :=
  ⟨start, stop - start⟩

/-- The items of a list in a window. Without a window there are none. -/
def Window.items {α : Type} : Option Window → List α → List α
  | some window, xs => (xs.drop window.skipped).take window.kept
  | none, _ => []

/-- The window of the first or the last items of a list of the given length. -/
def takeWindow (fromEnd : Bool) (count length : Nat) : Except Overflow (Option Window) := do
  let count := min count length
  if fromEnd then return some (.ofRange (← subtractCounts length count) length)
  else return some (.ofRange 0 count)

/-- The window from one position to another, both included, in a list of the given length. -/
def sliceWindow (first last length : Nat) : Except Overflow (Option Window) := do
  if last < first ∨ length ≤ first then return none
  let final := min last (← subtractCounts length 1)
  return some ⟨first, ← addCounts (← subtractCounts final first) 1⟩

/-- The items of a list in the window for its length. -/
def Window.select {α : Type} (window : Nat → Except Overflow (Option Window)) (xs : List α) :
    Except Overflow (List α) :=
  (window xs.length).map fun w => items w xs

/-- The transformation of the items of a list or the characters of a text in a window; other values
become null, and so do lists that are too long to have a window. -/
def onWindow (window : Nat → Except Overflow (Option Window)) : Transform :=
  .pure fun v =>
    match v with
    | .array items =>
      match Window.select window items with
      | .ok items => .array items
      | .error _ => .null
    | .string text =>
      match Window.select window text.toList with
      | .ok cs => .string (String.ofList cs)
      | .error _ => .null
    | _ => .null

/-- The number of items of a list or of characters of a text. -/
def size : Transform :=
  .pure fun v =>
    match v with
    | .array items => .ofNat items.length
    | .string text => .ofNat text.toList.length
    | _ => .null

/-- The first argument as a count, which is zero if there is none. -/
def readCount (pipe : String) (args : List String) : Except ExprError Nat :=
  match args with
  | [] => .ok 0
  | arg :: _ =>
    match readWord? (Text.trimmed arg) with
    | some n => .ok n
    | none => .error (.invalidPipeArgs pipe ("'" ++ arg ++ "' is not a count"))

/-- Takes items from the front or from the end. -/
def takePipe (fromEnd : Bool) : Pipe := fun args => do
  let count ← readCount (if fromEnd then "takeLast" else "take") args
  return onWindow (takeWindow fromEnd count)

/-- The argument at an index as a position; an argument that is no position means zero. -/
def readPosition (args : List String) (i : Nat) : Nat :=
  ((args[i]?).bind fun arg => readWord? (Text.trimmed arg)).getD 0

/-- Takes the items from one position to another, both included. -/
def slicePipe : Pipe := fun args =>
  .ok (onWindow (sliceWindow (readPosition args 0) (readPosition args 1)))

/-- The first argument without white space at its ends, if it is not empty then. -/
def readPath? (arg : Option String) : Option String :=
  (arg.map Text.trimmed).filter fun path => path ≠ ""

/-- The object that has each item as the field that a path of the item names. -/
def associateBy (path : String) (items : List Value) : Fields :=
  Entries.ofList <| items.filterMap fun item =>
    ((item.lookup? path).bind Value.toText?).map fun key => (key, item)

/-- Makes an object of a list. -/
def associateByPipe : Pipe :=
  .optional fun arg => .pure fun v =>
    match readPath? arg with
    | some path => .object (associateBy path v.asList)
    | none => .null

/-- Drops the items that are null. -/
def dropNulls : Transform :=
  onList fun items => .array (items.filter fun v => !v.isNull)

/-- Drops the items that have no text other than white space. -/
def dropBlanks : Transform :=
  onList fun items => .array (items.filter fun v => !v.isBlank)

/-- The pipes on lists. -/
def listPipes : Registry Pipe :=
  .ofEntries [
    ("first", .plain (onList fun items => items.head?.getD .null)),
    ("last", .plain (onList fun items => items.getLast?.getD .null)),
    ("reversed", .plain (onList fun items => .array items.reverse)),
    ("notNull", .plain dropNulls),
    ("filterNotNull", .plain dropNulls),
    ("notBlank", .plain dropBlanks),
    ("filterNotBlank", .plain dropBlanks),
    ("firstNotBlank",
      .plain (onList fun items => (items.find? fun v => !v.isBlank).getD .null)),
    ("lastNotBlank",
      .plain (onList fun items => (items.reverse.find? fun v => !v.isBlank).getD .null)),
    ("size", .plain size),
    ("take", takePipe false),
    ("takeLast", takePipe true),
    ("slice", slicePipe),
    ("associateBy", associateByPipe)]

end AccessPolicy.Standard
