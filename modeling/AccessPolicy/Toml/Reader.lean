import AccessPolicy.Toml.Scalar
import AccessPolicy.Toml.Table
import AccessPolicy.Toml.Text

/-!
# Reading TOML

A reader of TOML documents, which yields the fields of the root table. Each function takes what
it reads off the front of the remaining characters; the fuel is the length of the document, and
every step takes at least one character. How deep values may be nested is not limited here.
-/

namespace AccessPolicy.Toml

/-- Whether a character may stand in a scalar without quotes. -/
def isScalarChar (c : Char) : Bool :=
  c.isAlphanum || c ∈ ['_', '+', '-', '.', ':']

/-- A scalar without quotes. A date may be followed by a space and a time of day. -/
def readWord? (cs : List Char) : Option (Value × List Char) :=
  let word := cs.takeWhile isScalarChar
  let rest := cs.drop word.length
  let time := (rest.drop 1).takeWhile isScalarChar
  let long := word ++ rest.take 1 ++ time
  if isDate word && isDateTime long then some (.null, cs.drop long.length)
  else (readScalar? word).map fun v => (v, rest)

mutual

/-- A value. -/
def readValue? : Nat → List Char → Option (Value × List Char)
  | 0, _ => none
  | fuel + 1, cs =>
    match cs with
    | '[' :: rest => do
      let (items, rest) ← readItems? fuel rest
      return (.array items, rest)
    | '\x7b' :: rest =>
      match skipSpace rest with
      | '\x7d' :: rest => some (.object [], rest)
      | rest => do
        let (items, rest) ← readPairs? fuel [] rest
        return (.object (itemsToFields items), rest)
    | cs =>
      match readString? cs with
      | some (text, rest) => some (.string (String.ofList text), rest)
      | none => readWord? cs

/-- The values of a list up to its closing bracket. -/
def readItems? : Nat → List Char → Option (List Value × List Char)
  | 0, _ => none
  | fuel + 1, cs =>
    match skipLines cs.length cs with
    | ']' :: rest => some ([], rest)
    | rest => do
      let (v, rest) ← readValue? fuel rest
      match skipLines rest.length rest with
      | ',' :: rest =>
        let (items, rest) ← readItems? fuel rest
        return (v :: items, rest)
      | ']' :: rest => return ([v], rest)
      | _ => none

/-- A key and its value. -/
def readPair? : Nat → List Char → Option ((List String × Value) × List Char)
  | 0, _ => none
  | fuel + 1, cs => do
    let (key, rest) ← readKey? cs.length cs
    match skipSpace rest with
    | '=' :: rest =>
      let (v, rest) ← readValue? fuel (skipSpace rest)
      return ((key, v), rest)
    | _ => none

/-- The pairs of an inline table up to its closing brace, added to those before. -/
def readPairs? : Nat → Items → List Char → Option (Items × List Char)
  | 0, _, _ => none
  | fuel + 1, items, cs => do
    let ((key, v), rest) ← readPair? fuel (skipSpace cs)
    let items ← Items.addValue key v items
    match skipSpace rest with
    | ',' :: rest => readPairs? fuel items rest
    | '\x7d' :: rest => return (items, rest)
    | _ => none

end

/-- The root table and the path of the table that was opened last. -/
structure Document where
  /-- The items of the root table. -/
  root : Items := []
  /-- The path of the open table. -/
  path : List String := []

namespace Document

/-- The document after a header, and what follows the header. -/
def readHeader? (doc : Document) (cs : List Char) : Option (Document × List Char) :=
  match cs with
  | '[' :: rest => do
    let (key, rest) ← readKey? rest.length (skipSpace rest)
    match skipSpace rest with
    | ']' :: ']' :: rest => return ({ root := ← Items.openNext? key doc.root, path := key }, rest)
    | _ => none
  | rest => do
    let (key, rest) ← readKey? rest.length (skipSpace rest)
    match skipSpace rest with
    | ']' :: rest => return ({ root := ← Items.open? key doc.root, path := key }, rest)
    | _ => none

/-- The document after a line, without the comment at its end. -/
def readLine? (doc : Document) (cs : List Char) : Option (Document × List Char) :=
  match skipSpace cs with
  | [] => some (doc, [])
  | '#' :: rest => some (doc, '#' :: rest)
  | '[' :: rest => doc.readHeader? rest
  | rest =>
    if (lineEnd? rest).isSome then some (doc, rest)
    else do
      let ((key, v), rest) ← readPair? (rest.length + 2) rest
      let root ← Items.update none false (Items.addValue key v) doc.path doc.root
      return ({ doc with root }, rest)

/-- The document after all lines. -/
def readLines? : Nat → Document → List Char → Option Document
  | 0, _, _ => none
  | fuel + 1, doc, cs => do
    let (doc, rest) ← doc.readLine? cs
    match skipComment rest with
    | [] => return doc
    | rest => readLines? fuel doc (← lineEnd? rest)

end Document

/-- The object that a document holds. A byte order mark may stand in front. -/
def read? (text : String) : Option Value :=
  let cs := match text.toList with
    | '\uFEFF' :: rest => rest
    | cs => cs
  (Document.readLines? (cs.length + 1) {} cs).map fun doc => .object (itemsToFields doc.root)

end AccessPolicy.Toml
