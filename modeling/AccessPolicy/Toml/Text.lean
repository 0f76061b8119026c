import AccessPolicy.Json.Reader

/-!
# Texts and keys of TOML

White space, comments and line ends, the four kinds of strings, and keys. Each function takes
what it reads off the front of the remaining characters. A line end within a string is a line
feed.
-/

namespace AccessPolicy.Toml

/-- Whether a character may stand between the parts of a line. -/
def isSpace (c : Char) : Bool :=
  c = ' ' || c = '\t'

/-- Drops the white space at the front. -/
def skipSpace (cs : List Char) : List Char :=
  cs.dropWhile isSpace

/-- Whether a character may stand in comments and literal strings: no control character but the
tab. -/
def isPlain (c : Char) : Bool :=
  c = '\t' || (32 ≤ c.toNat && c.toNat ≠ 127)

/-- What follows a line end. -/
def lineEnd? : List Char → Option (List Char)
  | '\n' :: rest => some rest
  | '\r' :: '\n' :: rest => some rest
  | _ => none

/-- Drops white space, and a comment after it. -/
def skipComment (cs : List Char) : List Char :=
  match skipSpace cs with
  | '#' :: rest => rest.dropWhile isPlain
  | rest => rest

/-- Drops white space, line ends and comments, where the fuel bounds the number of lines. -/
def skipLines : Nat → List Char → List Char
  | 0, cs => cs
  | fuel + 1, cs =>
    let rest := skipComment cs
    match lineEnd? rest with
    | some rest => skipLines fuel rest
    | none => rest

/-- The number that hexadecimal digits denote. -/
def hexNumber? (digits : List Char) : Option Nat :=
  digits.foldlM (fun n c => (hexDigit? c).map fun d => 16 * n + d) 0

/-- The character of a number of hexadecimal digits, of which there must be `count`. -/
def readCode? (count : Nat) (cs : List Char) : Option (Char × List Char) := do
  let digits := cs.take count
  let n ← hexNumber? digits
  if digits.length = count ∧ n.isValidChar then some (Char.ofNat n, cs.drop count) else none

/-- The character of an escape after its backslash. -/
def readEscape? : List Char → Option (Char × List Char)
  | 'b' :: rest => some (Char.ofNat 8, rest)
  | 't' :: rest => some ('\t', rest)
  | 'n' :: rest => some ('\n', rest)
  | 'f' :: rest => some (Char.ofNat 12, rest)
  | 'r' :: rest => some ('\r', rest)
  | '"' :: rest => some ('"', rest)
  | '\\' :: rest => some ('\\', rest)
  | 'u' :: rest => readCode? 4 rest
  | 'U' :: rest => readCode? 8 rest
  | _ => none

/-- The rest of a string in quotes on one line, where `escapes` tells whether a backslash begins
an escape. The fuel bounds the number of characters. -/
def readLine? (quote : Char) (escapes : Bool) :
    (fuel : Nat) → List Char → Option (List Char × List Char)
  | 0, _ => none
  | _, [] => none
  | fuel + 1, c :: rest =>
    if c = quote then some ([], rest)
    else if escapes && c = '\\' then do
      let (c, rest) ← readEscape? rest
      let (text, rest) ← readLine? quote escapes fuel rest
      return (c :: text, rest)
    else if isPlain c then do
      let (text, rest) ← readLine? quote escapes fuel rest
      return (c :: text, rest)
    else none

/-- Drops white space and line ends, where the fuel bounds the number of lines. -/
def skipBlankLines : Nat → List Char → List Char
  | 0, cs => cs
  | fuel + 1, cs =>
    match lineEnd? (skipSpace cs) with
    | some rest => skipBlankLines fuel rest
    | none => skipSpace cs

/-- What follows a backslash at the end of a line: the next text after white space and line
ends. -/
def skipContinuation? (cs : List Char) : Option (List Char) :=
  (lineEnd? (skipSpace cs)).map fun rest => skipBlankLines (rest.length + 1) rest

/-- The rest of a string in threefold quotes. Up to two quotes may stand before the closing
ones. -/
def readLines? (quote : Char) (escapes : Bool) :
    (fuel : Nat) → List Char → Option (List Char × List Char)
  | 0, _ => none
  | _, [] => none
  | fuel + 1, c :: rest =>
    if c = quote then
      -- The last three quotes of a run close the string; the ones before them belong to it.
      let run := (c :: rest).takeWhile (· = quote)
      let after := (c :: rest).drop run.length
      if run.length < 3 then do
        let (text, rest) ← readLines? quote escapes fuel after
        return (run ++ text, rest)
      else if run.length ≤ 5 then some (run.drop 3, after)
      else none
    else
      match lineEnd? (c :: rest) with
      | some rest => do
        let (text, rest) ← readLines? quote escapes fuel rest
        return ('\n' :: text, rest)
      | none =>
        if escapes && c = '\\' then
          match skipContinuation? rest with
          | some rest => readLines? quote escapes fuel rest
          | none => do
            let (c, rest) ← readEscape? rest
            let (text, rest) ← readLines? quote escapes fuel rest
            return (c :: text, rest)
        else if isPlain c then do
          let (text, rest) ← readLines? quote escapes fuel rest
          return (c :: text, rest)
        else none

/-- A string on one line. -/
def readQuoted? : List Char → Option (List Char × List Char)
  | '"' :: rest => readLine? '"' true rest.length rest
  | '\'' :: rest => readLine? '\'' false rest.length rest
  | _ => none

/-- A string of any kind. A line end right after threefold quotes does not count. -/
def readString? (cs : List Char) : Option (List Char × List Char) :=
  match cs with
  | '"' :: '"' :: '"' :: rest =>
    let rest := (lineEnd? rest).getD rest
    readLines? '"' true rest.length rest
  | '\'' :: '\'' :: '\'' :: rest =>
    let rest := (lineEnd? rest).getD rest
    readLines? '\'' false rest.length rest
  | cs => readQuoted? cs

/-- Whether a character may stand in a key without quotes. -/
def isBareKey (c : Char) : Bool :=
  c.isAlphanum || c = '_' || c = '-'

/-- One part of a key. -/
def readKeyPart? (cs : List Char) : Option (String × List Char) :=
  match readQuoted? cs with
  | some (text, rest) => some (String.ofList text, rest)
  | none =>
    let part := cs.takeWhile isBareKey
    if part.isEmpty then none else some (String.ofList part, cs.drop part.length)

/-- A key: parts with points between them, and white space around the points. -/
def readKey? : (fuel : Nat) → List Char → Option (List String × List Char)
  | 0, _ => none
  | fuel + 1, cs => do
    let (part, rest) ← readKeyPart? cs
    match skipSpace rest with
    | '.' :: rest =>
      let (parts, rest) ← readKey? fuel (skipSpace rest)
      return (part :: parts, rest)
    | rest => return ([part], rest)

end AccessPolicy.Toml
