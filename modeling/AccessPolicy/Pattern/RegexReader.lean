import AccessPolicy.Number.Whole
import AccessPolicy.Pattern.Property
import AccessPolicy.Pattern.Regex

/-!
# Reading regular expressions

The textual syntax of regular expressions: literals, classes in brackets, by letter and by
property, anchors and word boundaries, groups with flags, alternatives and repetitions. The reader
goes through the text once and keeps a stack of the groups that are still open. A text outside the
syntax gives no expression, and neither does one that could match half of a character. The reader
itself limits neither the nesting nor the size of an expression: what a library accepts within its
limits is a parameter of `Regex.readWithin?`.
-/

namespace AccessPolicy.Pattern

/-- The flags that hold at a place of a regular expression. -/
structure RegexFlags where
  /-- `i`: letters match in either case. -/
  ignoreCase : Bool := false
  /-- `m`: the anchors match at line feeds. -/
  multiLine : Bool := false
  /-- `s`: the dot matches line feeds. -/
  dotAll : Bool := false
  /-- `R`: lines end with a carriage return and a line feed. -/
  carriageReturns : Bool := false
  /-- `u`: classes hold characters of all of Unicode, not ASCII alone. -/
  unicode : Bool := true
  /-- `x`: white space and comments are ignored. -/
  verbose : Bool := false

/-- A part of a regular expression that is written as one unit. -/
inductive RegexAtom where
  /-- A character; `byte` if it was written as a byte of two hexadecimal digits. -/
  | literal (c : Char) (byte : Bool)
  /-- A named class. -/
  | cls (members : CharClass)
  /-- A condition on the neighbours. -/
  | look (holds : (before after : Option Char) → Bool)

namespace RegexFlags

/-- Drops what `x` ignores: white space, and comments up to the end of their line. -/
def skipIgnored (inComment : Bool) : List Char → List Char
  | [] => []
  | c :: cs =>
    if inComment then skipIgnored (c ≠ '\n') cs
    else if Text.isBlank c then skipIgnored false cs
    else if c = '#' then skipIgnored true cs
    else c :: cs

/-- Drops what these flags ignore. -/
def skip (flags : RegexFlags) (cs : List Char) : List Char :=
  if flags.verbose then skipIgnored false cs else cs

/-- Switches a flag on or off. Greed has no bearing on whether a text matches. -/
def set? (flags : RegexFlags) (letter : Char) (on : Bool) : Option RegexFlags :=
  match letter with
  | 'i' => some { flags with ignoreCase := on }
  | 'm' => some { flags with multiLine := on }
  | 's' => some { flags with dotAll := on }
  | 'R' => some { flags with carriageReturns := on }
  | 'u' => some { flags with unicode := on }
  | 'x' => some { flags with verbose := on }
  | 'U' => some flags
  | _ => none

/-- Whether a character of a word stands at a place. -/
def atWord (flags : RegexFlags) (c : Option Char) : Bool :=
  c.any (if flags.unicode then CharClass.word else CharClass.asciiWord)

/-- The class closed under differences of case if case is ignored. -/
def foldCase (flags : RegexFlags) (p : CharClass) : CharClass :=
  if !flags.ignoreCase then p
  else if flags.unicode then CharClass.foldCase p
  else CharClass.foldAsciiCase p

/-- A class of ASCII characters where Unicode is switched off. One that holds other bytes could
match half of a character. -/
def checked? (flags : RegexFlags) (p : CharClass) : Option CharClass :=
  if flags.unicode then some p
  else if (List.range 128).any fun n => p (Char.ofNat (128 + n)) then none
  else some (CharClass.inter CharClass.ascii p)

/-- The class of a letter such as `d`, or its complement. -/
def shorthand? (flags : RegexFlags) (p ascii : CharClass) (negated : Bool) : Option CharClass :=
  flags.checked? (CharClass.negateIf negated (if flags.unicode then p else ascii))

/-- The class of a property, or its complement. Properties are those of Unicode. -/
def property? (flags : RegexFlags) (negated : Bool) (text : List Char) : Option RegexAtom :=
  if flags.unicode then
    (CharClass.namedProperty? text).map fun p =>
      .cls (CharClass.negateIf negated (flags.foldCase p))
  else none

/-- The beginning of a line. -/
def lineStart (flags : RegexFlags) (before after : Option Char) : Bool :=
  if !flags.multiLine then before.isNone
  else if flags.carriageReturns then
    before.isNone || before == some '\n' || (before == some '\r' && after != some '\n')
  else before.isNone || before == some '\n'

/-- The end of a line. -/
def lineEnd (flags : RegexFlags) (before after : Option Char) : Bool :=
  if !flags.multiLine then after.isNone
  else if flags.carriageReturns then
    after.isNone || after == some '\r' || (after == some '\n' && before != some '\r')
  else after.isNone || after == some '\n'

/-- What the dot matches. -/
def dot? (flags : RegexFlags) : Option CharClass :=
  flags.checked? fun c =>
    flags.dotAll || (c ≠ '\n' && !(flags.carriageReturns && c = '\r'))

/-- The expression of an atom. -/
def regexOf? (flags : RegexFlags) : RegexAtom → Option Regex
  | .literal c byte =>
    if byte && !flags.unicode && c.toNat ≥ 128 then none
    else some (.char (flags.foldCase (CharClass.single c)))
  | .cls members => some (.char members)
  | .look holds => some (.look holds)

/-- The character of a literal within a class. -/
def classChar? (flags : RegexFlags) : RegexAtom → Option Char
  | .literal c byte => if flags.unicode || byte || c.toNat < 128 then some c else none
  | _ => none

/-- The members that an atom adds to a class. -/
def classOf? (flags : RegexFlags) : RegexAtom → Option CharClass
  | .literal c byte => (flags.classChar? (.literal c byte)).map CharClass.single
  | .cls members => some members
  | .look _ => none

end RegexFlags

/-- Whether an ASCII character may be escaped to stand for itself. -/
def isEscapable (c : Char) : Bool :=
  c.toNat < 128 && !c.isAlphanum && c ≠ '<' && c ≠ '>'

/-- The character of a code point, if there is one. -/
def charOfNat? (n : Nat) : Option Char :=
  if n.isValidChar then some (Char.ofNat n) else none

/-- Exactly `count` hexadecimal digits. -/
def readHexDigits? (flags : RegexFlags) (value : Nat) :
    Nat → List Char → Option (Nat × List Char)
  | 0, cs => some (value, cs)
  | count + 1, cs =>
    match flags.skip cs with
    | [] => none
    | c :: rest => (hexDigit? c).bind fun d => readHexDigits? flags (16 * value + d) count rest

/-- Hexadecimal digits up to a closing brace. -/
def readHexBraced? (flags : RegexFlags) (value : Option Nat) : Nat → List Char →
    Option (Nat × List Char)
  | 0, _ => none
  | fuel + 1, cs =>
    match flags.skip cs with
    | [] => none
    | c :: rest =>
      if c = '\x7d' then value.map fun v => (v, rest)
      else (hexDigit? c).bind fun d =>
        readHexBraced? flags (some (min (16 * value.getD 0 + d) 0x110000)) fuel rest

/-- A character by its number, where plain digits come in the given count. -/
def readHex? (flags : RegexFlags) (count : Nat) (byte : Bool) (cs : List Char) :
    Option (RegexAtom × List Char) :=
  match flags.skip cs with
  | '\x7b' :: rest =>
    (readHexBraced? flags none (rest.length + 1) rest).bind fun (n, rest) =>
      (charOfNat? n).map fun c => (.literal c false, rest)
  | cs =>
    (readHexDigits? flags 0 count cs).bind fun (n, rest) =>
      (charOfNat? n).map fun c => (.literal c byte, rest)

/-- The name of a special word boundary up to its closing brace. -/
def readBoundaryName? (flags : RegexFlags) (name : List Char) : Nat → List Char →
    Option (String × List Char)
  | 0, _ => none
  | fuel + 1, cs =>
    match cs with
    | [] => none
    | c :: rest =>
      if c.isAlpha || c = '-' then readBoundaryName? flags (name ++ [c]) fuel (flags.skip rest)
      else if c = '\x7d' then some (String.ofList name, rest)
      else none

/-- A word boundary after its letter: of both kinds, or the kind that braces name. -/
def readBoundary? (flags : RegexFlags) (cs : List Char) : Option (RegexAtom × List Char) :=
  let both : RegexAtom := .look fun before after => flags.atWord before != flags.atWord after
  match cs with
  | '\x7b' :: rest =>
    match flags.skip rest with
    | [] => none
    | c :: more =>
      if c.isAlpha || c = '-' then
        (readBoundaryName? flags [] (more.length + 2) (c :: more)).bind fun (name, rest) =>
          match name with
          | "start" =>
            some (.look fun before after => !flags.atWord before && flags.atWord after, rest)
          | "end" =>
            some (.look fun before after => flags.atWord before && !flags.atWord after, rest)
          | "start-half" => some (.look fun before _ => !flags.atWord before, rest)
          | "end-half" => some (.look fun _ after => !flags.atWord after, rest)
          | _ => none
      else some (both, cs)
  | _ => some (both, cs)

/-- What stands up to the closing brace of a property. -/
def readPropertyText? (flags : RegexFlags) : Nat → List Char → Option (List Char × List Char)
  | 0, _ => none
  | fuel + 1, cs =>
    match flags.skip cs with
    | [] => none
    | c :: rest =>
      if c = '\x7d' then some ([], rest)
      else (readPropertyText? flags fuel rest).bind fun (text, rest) => some (c :: text, rest)

/-- A class by a property, after its letter: by what stands between braces, or by one letter. -/
def readProperty? (flags : RegexFlags) (negated : Bool) (cs : List Char) :
    Option (RegexAtom × List Char) :=
  match flags.skip cs with
  | [] => none
  | c :: rest =>
    if c = '\\' then none
    else if c = '\x7b' then
      (readPropertyText? flags (rest.length + 1) rest).bind fun (text, rest) =>
        (flags.property? negated text).map fun atom => (atom, rest)
    else (flags.property? negated [c]).map fun atom => (atom, rest)

/-- An escape after its backslash. -/
def readEscape? (flags : RegexFlags) : List Char → Option (RegexAtom × List Char)
  | [] => none
  | c :: rest =>
    let cls (p : Option CharClass) := p.map fun p => (RegexAtom.cls p, rest)
    let lit (n : Nat) := some (RegexAtom.literal (Char.ofNat n) false, rest)
    match c with
    | 'x' => readHex? flags 2 true rest
    | 'u' => readHex? flags 4 false rest
    | 'U' => readHex? flags 8 false rest
    | 'd' => cls (flags.shorthand? CharClass.digit CharClass.asciiDigit false)
    | 'D' => cls (flags.shorthand? CharClass.digit CharClass.asciiDigit true)
    | 's' => cls (flags.shorthand? CharClass.space CharClass.asciiSpace false)
    | 'S' => cls (flags.shorthand? CharClass.space CharClass.asciiSpace true)
    | 'w' => cls (flags.shorthand? CharClass.word CharClass.asciiWord false)
    | 'W' => cls (flags.shorthand? CharClass.word CharClass.asciiWord true)
    | 'p' => readProperty? flags false rest
    | 'P' => readProperty? flags true rest
    | 'a' => lit 7
    | 'f' => lit 12
    | 't' => lit 9
    | 'n' => lit 10
    | 'r' => lit 13
    | 'v' => lit 11
    | 'A' => some (.look fun before _ => before.isNone, rest)
    | 'z' => some (.look fun _ after => after.isNone, rest)
    | 'b' => readBoundary? flags rest
    | 'B' => some (.look fun before after => flags.atWord before == flags.atWord after, rest)
    | '<' => some (.look fun before after => !flags.atWord before && flags.atWord after, rest)
    | '>' => some (.look fun before after => flags.atWord before && !flags.atWord after, rest)
    | c => if isEscapable c then some (.literal c false, rest) else none

/-- An atom that a class holds, or one end of a range of it. -/
def readClassAtom? (flags : RegexFlags) : List Char → Option (RegexAtom × List Char)
  | [] => none
  | '\\' :: rest => readEscape? flags rest
  | c :: rest => some (.literal c false, rest)

/-- An atom or a range of characters within a class. -/
def readClassRange? (flags : RegexFlags) (cs : List Char) : Option (CharClass × List Char) := do
  let (first, rest) ← readClassAtom? flags cs
  match flags.skip rest with
  | [] => none
  | '-' :: more =>
    match flags.skip more with
    | [] => none
    | c :: _ =>
      -- A dash at the end of the class, or before another one, makes no range.
      if c = ']' ∨ c = '-' then
        (flags.classOf? first).map fun p => (p, '-' :: more)
      else
        let (last, rest) ← readClassAtom? flags (flags.skip more)
        let first ← flags.classChar? first
        let last ← flags.classChar? last
        if first ≤ last then some (CharClass.range first last, rest) else none
  | rest => (flags.classOf? first).map fun p => (p, rest)

/-- A class named between `[:` and `:]`, with `^` in front of the name for its complement. -/
def readNamedClass? (flags : RegexFlags) (cs : List Char) :
    Option (Option CharClass × List Char) :=
  match cs with
  | '[' :: ':' :: rest =>
    let (negated, rest) := match rest with
      | '^' :: more => (true, more)
      | _ => (false, rest)
    let name := rest.takeWhile (· ≠ ':')
    match rest.dropWhile (· ≠ ':') with
    | ':' :: ']' :: rest =>
      (CharClass.named? (String.ofList name)).map fun p =>
        (flags.checked? (CharClass.negateIf negated (flags.foldCase p)), rest)
    | _ => none
  | _ => none

/-- The operations between the parts of a class. -/
inductive ClassOp where
  /-- `&&` -/
  | inter
  /-- `--` -/
  | diff
  /-- `~~` -/
  | symmDiff

/-- The class that an operation makes of two. -/
def ClassOp.apply : ClassOp → CharClass → CharClass → CharClass
  | .inter => CharClass.inter
  | .diff => CharClass.diff
  | .symmDiff => CharClass.symmDiff

/-- The class of the operations before the current part and of that part. -/
def closeClass (flags : RegexFlags) (pending : Option (ClassOp × CharClass)) (part : CharClass) :
    CharClass :=
  match pending with
  | none => part
  | some (op, before) => op.apply (flags.foldCase before) (flags.foldCase part)

/-- Dashes in front of a class stand for themselves. -/
def takeDashes (flags : RegexFlags) (found : Bool) : Nat → List Char → Bool × List Char
  | 0, cs => (found, cs)
  | fuel + 1, cs =>
    match cs with
    | '-' :: rest => takeDashes flags true fuel (flags.skip rest)
    | _ => (found, cs)

mutual

/-- A class in brackets, after its opening bracket. -/
def readClass? (flags : RegexFlags) : Nat → List Char → Option (CharClass × List Char)
  | 0, _ => none
  | fuel + 1, cs => do
    let (negated, cs) := match flags.skip cs with
      | '^' :: rest => (true, flags.skip rest)
      | cs => (false, cs)
    let (dashes, cs) := takeDashes flags false (cs.length + 1) cs
    let part := if dashes then CharClass.single '-' else CharClass.none
    -- A bracket in front stands for itself, so a class is never empty.
    let (part, cs) := match dashes, cs with
      | false, ']' :: rest => (CharClass.single ']', flags.skip rest)
      | _, cs => (part, cs)
    let (members, rest) ← readClassParts? flags fuel none part cs
    let members ← flags.checked? (CharClass.negateIf negated (flags.foldCase members))
    pure (members, rest)

/-- The parts of a class up to its closing bracket. -/
def readClassParts? (flags : RegexFlags) : Nat → Option (ClassOp × CharClass) → CharClass →
    List Char → Option (CharClass × List Char)
  | 0, _, _, _ => none
  | fuel + 1, pending, part, cs =>
    let continueWith (op : ClassOp) (rest : List Char) :=
      readClassParts? flags fuel (some (op, closeClass flags pending part)) CharClass.none rest
    match flags.skip cs with
    | [] => none
    | ']' :: rest => some (closeClass flags pending part, rest)
    | '&' :: '&' :: rest => continueWith .inter rest
    | '-' :: '-' :: rest => continueWith .diff rest
    | '~' :: '~' :: rest => continueWith .symmDiff rest
    | '[' :: rest =>
      -- What is no named class may still be a class within the class.
      match readNamedClass? flags ('[' :: rest) with
      | some (some p, rest) => readClassParts? flags fuel pending (CharClass.union part p) rest
      | some (none, _) => none
      | none =>
        match readClass? flags fuel rest with
        | none => none
        | some (p, rest) => readClassParts? flags fuel pending (CharClass.union part p) rest
    | cs =>
      match readClassRange? flags cs with
      | none => none
      | some (p, rest) => readClassParts? flags fuel pending (CharClass.union part p) rest

end

/-- A sequence of items, the last of which a repetition after it would repeat. -/
structure RegexBranch where
  /-- The items that nothing can repeat any more. -/
  settled : Regex := .empty
  /-- The last item, unless there is none or it only set flags. -/
  last : Option Regex := none

namespace RegexBranch

/-- All items of the branch in sequence. -/
def close (branch : RegexBranch) : Regex :=
  match branch.last with
  | none => branch.settled
  | some item => .seq branch.settled item

/-- The branch with one more item. -/
def push (branch : RegexBranch) (item : Regex) : RegexBranch :=
  { settled := branch.close, last := some item }

/-- The branch with its last item repeated. -/
def repeat? (branch : RegexBranch) (least : Nat) (most : Option Nat) : Option RegexBranch :=
  branch.last.map fun item => { branch with last := some (.times item least most) }

end RegexBranch

/-- A group that is being read, or the whole expression. -/
structure RegexLevel where
  /-- The alternatives before the current one. -/
  before : Option Regex := none
  /-- The current alternative. -/
  branch : RegexBranch := {}
  /-- The flags that hold at this place. -/
  flags : RegexFlags := {}

namespace RegexLevel

/-- The expression of all alternatives. -/
def close (level : RegexLevel) : Regex :=
  match level.before with
  | none => level.branch.close
  | some before => .alt before level.branch.close

/-- Begins the next alternative. -/
def nextBranch (level : RegexLevel) : RegexLevel :=
  { level with before := some level.close, branch := {} }

/-- Adds an item to the current alternative. -/
def push (level : RegexLevel) (item : Regex) : RegexLevel :=
  { level with branch := level.branch.push item }

/-- Repeats the last item. -/
def repeat? (level : RegexLevel) (least : Nat) (most : Option Nat) : Option RegexLevel :=
  (level.branch.repeat? least most).map fun branch => { level with branch }

end RegexLevel

/-- The flags up to `:` or `)`, with the letters met so far and whether they are switched on. -/
def readFlags? (flags : RegexFlags) (seen : List Char) (on dangling : Bool) :
    List Char → Option (RegexFlags × Bool × List Char)
  | [] => none
  | c :: rest =>
    if c = ':' ∨ c = ')' then
      if dangling then none else some (flags, seen.isEmpty, c :: rest)
    else if c ∈ seen then none
    else if c = '-' then readFlags? flags (c :: seen) false true rest
    else (flags.set? c on).bind fun flags => readFlags? flags (c :: seen) on false rest

/-- The name of a group up to `>`. -/
def readGroupName? (first : Bool) : List Char → Option (List Char × List Char)
  | [] => none
  | c :: rest =>
    if c = '>' then if first then none else some ([], rest)
    else if c = '_' || (if first then CharClass.letter c
        else c = '.' || c = '[' || c = ']' || CharClass.alphanumeric c) then
      (readGroupName? false rest).map fun r => (c :: r.1, r.2)
    else none

/-- A count below `2 ^ 32`, with white space around it. -/
def readCount? (flags : RegexFlags) (cs : List Char) : Option Nat × List Char :=
  let cs := Text.trimStart cs
  let digits := cs.takeWhile Char.isDigit
  let value := (readDigits? digits).filter (· < Nat.pow 2 32)
  (value, Text.trimStart (flags.skip (cs.dropWhile Char.isDigit)))

/-- The bounds of a counted repetition, after its opening brace. -/
def readBounds? (flags : RegexFlags) (cs : List Char) :
    Option ((Nat × Option Nat) × List Char) := do
  let (least, rest) := readCount? flags (flags.skip cs)
  let least ← least
  match rest with
  | '\x7d' :: rest => pure ((least, some least), rest)
  | ',' :: rest =>
    match flags.skip rest with
    | '\x7d' :: rest => pure ((least, none), rest)
    | rest =>
      let (most, rest) := readCount? flags rest
      let most ← most
      match rest with
      | '\x7d' :: rest => if least ≤ most then some ((least, some most), rest) else none
      | _ => none
  | _ => none

/-- Drops the mark of a reluctant repetition. -/
def skipReluctant : List Char → List Char
  | '?' :: rest => rest
  | cs => cs

/-- What follows an opening parenthesis: a group with its flags, or flags for the rest of the
surrounding group. The names of groups must differ. -/
def readGroupStart? (flags : RegexFlags) (names : List (List Char)) (cs : List Char) :
    Option ((RegexFlags × Bool × List (List Char)) × List Char) :=
  match flags.skip cs with
  -- Conditions on what stands around a place, of which there are none but the anchors.
  | '?' :: '=' :: _ => none
  | '?' :: '!' :: _ => none
  | '?' :: '<' :: '=' :: _ => none
  | '?' :: '<' :: '!' :: _ => none
  | '?' :: 'P' :: '<' :: rest => named rest
  | '?' :: '<' :: rest => named rest
  | '?' :: rest =>
    match readFlags? flags [] true false rest with
    | some (flags, bare, ')' :: rest) =>
      if bare then none else some ((flags, false, names), rest)
    | some (flags, _, ':' :: rest) => some ((flags, true, names), rest)
    | _ => none
  | rest => some ((flags, true, names), rest)
where
  /-- A group with a name. -/
  named (rest : List Char) : Option ((RegexFlags × Bool × List (List Char)) × List Char) :=
    (readGroupName? true rest).bind fun (name, rest) =>
      if name ∈ names then none else some ((flags, true, name :: names), rest)

/-- Reads the rest of an expression, with the groups around the current one and the names of
groups met so far. -/
def readRegex? :
    Nat → RegexLevel → List RegexLevel → List (List Char) → List Char → Option Regex
  | 0, _, _, _, _ => none
  | fuel + 1, level, outer, names, cs =>
    let flags := level.flags
    match flags.skip cs with
    | [] => if outer.isEmpty then some level.close else none
    | c :: rest =>
      match c with
      | '(' =>
        match readGroupStart? flags names rest with
        | none => none
        | some ((flags, opens, names), rest) =>
          if opens then readRegex? fuel { flags } (level :: outer) names rest
          else
            -- Flags alone are no item: nothing before them can be repeated after them.
            let branch := { settled := level.branch.close }
            readRegex? fuel { level with branch, flags } outer names rest
      | ')' =>
        match outer with
        | [] => none
        | parent :: outer => readRegex? fuel (parent.push level.close) outer names rest
      | '|' => readRegex? fuel level.nextBranch outer names rest
      | '[' =>
        match readClass? flags (rest.length + 1) rest with
        | none => none
        | some (p, rest) => readRegex? fuel (level.push (.char p)) outer names rest
      | '?' => (level.repeat? 0 (some 1)).bind fun level =>
          readRegex? fuel level outer names (skipReluctant rest)
      | '*' => (level.repeat? 0 none).bind fun level =>
          readRegex? fuel level outer names (skipReluctant rest)
      | '+' => (level.repeat? 1 none).bind fun level =>
          readRegex? fuel level outer names (skipReluctant rest)
      | '\x7b' =>
        match readBounds? flags rest with
        | none => none
        | some ((least, most), rest) => (level.repeat? least most).bind fun level =>
            readRegex? fuel level outer names (skipReluctant (flags.skip rest))
      | '.' => (flags.dot?).bind fun p => readRegex? fuel (level.push (.char p)) outer names rest
      | '^' => readRegex? fuel (level.push (.look flags.lineStart)) outer names rest
      | '$' => readRegex? fuel (level.push (.look flags.lineEnd)) outer names rest
      | '\\' =>
        match readEscape? flags rest with
        | none => none
        | some (atom, rest) => (flags.regexOf? atom).bind fun r =>
            readRegex? fuel (level.push r) outer names rest
      | c => (flags.regexOf? (.literal c false)).bind fun r =>
          readRegex? fuel (level.push r) outer names rest

/-- The regular expression that a text denotes; none if the text is malformed. -/
def Regex.read? (pattern : List Char) : Option Regex :=
  readRegex? (pattern.length + 1) {} [] [] pattern

/-- The regular expression that a text denotes, unless the text exceeds the limits that are set to
the nesting or the size of expressions. -/
def Regex.readWithin? (fits : List Char → Bool) (pattern : List Char) : Option Regex :=
  if fits pattern then Regex.read? pattern else none

end AccessPolicy.Pattern
