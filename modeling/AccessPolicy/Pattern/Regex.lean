import AccessPolicy.Pattern.CharClass

/-!
# Regular expressions

Regular expressions over characters and the search for a match. A match is found by following
all positions of the text at once: an expression takes the set of positions where it may begin
to the set of positions where it may end. A set of positions is a natural number whose bit `i`
stands for the place in front of the character `i`, so the empty set is zero.
-/

namespace AccessPolicy.Pattern

/-- A regular expression. -/
inductive Regex where
  /-- Matches the empty text. -/
  | empty
  /-- Matches one character of a class. -/
  | char (cls : CharClass)
  /-- Matches the empty text where the neighbours, if there are any, satisfy a condition. -/
  | look (holds : (before after : Option Char) → Bool)
  /-- Matches a text that the first and then the second expression match. -/
  | seq (first second : Regex)
  /-- Matches what either expression matches. -/
  | alt (first second : Regex)
  /-- Matches at least `least` texts in a row that the expression matches, and at most `most` if
  that is given. -/
  | times (body : Regex) (least : Nat) (most : Option Nat)

namespace Regex

/-- The positions in front of a character of the class. -/
def classMask (cls : CharClass) : List Char → Nat
  | [] => 0
  | c :: cs => (if cls c then 1 else 0) + 2 * classMask cls cs

/-- The positions whose neighbours satisfy the condition, in a text that follows `before`. -/
def lookMask (holds : Option Char → Option Char → Bool) (before : Option Char) :
    List Char → Nat
  | [] => if holds before none then 1 else 0
  | c :: cs => (if holds before (some c) then 1 else 0) + 2 * lookMask holds (some c) cs

/-- Applies `f` the given number of times, or until nothing changes. -/
def applyTimes (f : Nat → Nat) : Nat → Nat → Nat
  | 0, positions => positions
  | n + 1, positions =>
    let next := f positions
    if next = positions then positions else applyTimes f n next

/-- Adds to a set what `f` makes of it, the given number of times or until nothing changes. -/
def saturate (f : Nat → Nat) : Nat → Nat → Nat
  | 0, positions => positions
  | n + 1, positions =>
    let next := positions ||| f positions
    if next = positions then positions else saturate f n next

/-- The positions where a match may end that begins at one of the given positions. -/
def ends (text : List Char) : Regex → Nat → Nat
  | .empty, positions => positions
  | .char cls, positions => 2 * (positions &&& classMask cls text)
  | .look holds, positions => positions &&& lookMask holds none text
  | .seq first second, positions => ends text second (ends text first positions)
  | .alt first second, positions => ends text first positions ||| ends text second positions
  -- One more text than there are characters reaches no new position.
  | .times body least none, positions =>
    saturate (ends text body) (text.length + 1) (applyTimes (ends text body) least positions)
  | .times body least (some most), positions =>
    saturate (ends text body) (most - least) (applyTimes (ends text body) least positions)

/-- All positions of a text. -/
def allPositions (text : List Char) : Nat :=
  Nat.pow 2 (text.length + 1) - 1

/-- Whether some part of the text matches. -/
def isMatch (r : Regex) (text : List Char) : Bool :=
  ends text r (allPositions text) != 0

/-- Matches one given character. -/
def literal (c : Char) : Regex := .char (CharClass.single c)

end Regex

end AccessPolicy.Pattern
