import AccessPolicy.Pattern.ClassTable
import AccessPolicy.Text.Blank
import AccessPolicy.Text.CaseTable

/-!
# Character classes

Sets of characters as predicates, with the classes that regular expressions name and the
closure of a set under differences of case.
-/

namespace AccessPolicy.Pattern

/-- A set of characters. -/
abbrev CharClass := Char → Bool

namespace CharClass

/-- The class of no character. -/
def none : CharClass := fun _ => false

/-- The class of one character. -/
def single (c : Char) : CharClass := fun d => d = c

/-- The characters from `first` to `last`. -/
def range (first last : Char) : CharClass := fun c => first ≤ c && c ≤ last

/-- The characters of either class. -/
def union (p q : CharClass) : CharClass := fun c => p c || q c

/-- The characters of both classes. -/
def inter (p q : CharClass) : CharClass := fun c => p c && q c

/-- The characters of the first class that are not in the second. -/
def diff (p q : CharClass) : CharClass := fun c => p c && !q c

/-- The characters of exactly one of the classes. -/
def symmDiff (p q : CharClass) : CharClass := fun c => p c != q c

/-- The characters that are not in the class. -/
def compl (p : CharClass) : CharClass := fun c => !p c

/-- The class or, if `negated`, its complement. -/
def negateIf (negated : Bool) (p : CharClass) : CharClass := if negated then compl p else p

/-- Every character but a line feed. -/
def notLineFeed : CharClass := fun c => c ≠ '\n'

/-- The characters below `0x80`. -/
def ascii : CharClass := fun c => c.toNat < 128

/-- Decimal digits. -/
def digit : CharClass := fun c => Text.inRanges digitRanges c.toNat

/-- White space. -/
def space : CharClass := Text.isBlank

/-- The characters of words. -/
def word : CharClass := fun c => Text.inRanges wordRanges c.toNat

/-- Letters. -/
def letter : CharClass := fun c => Text.inRanges letterRanges c.toNat

/-- Letters and numbers. -/
def alphanumeric : CharClass := fun c => letter c || Text.inRanges numberRanges c.toNat

/-- The ASCII digits. -/
def asciiDigit : CharClass := fun c => c.isDigit

/-- The ASCII letters, digits and the underscore. -/
def asciiWord : CharClass := fun c => c.isAlphanum || c = '_'

/-- The ASCII white space. -/
def asciiSpace : CharClass := fun c =>
  c = '\t' || c = '\n' || c.toNat = 11 || c.toNat = 12 || c = '\r' || c = ' '

/-- The characters that differ from `c` in case only, `c` among them. -/
def caseVariants (c : Char) : List Char :=
  let folded := Text.CaseRun.apply Text.foldRuns c.toNat
  let sources := Text.foldRuns.filterMap fun run =>
    let n := ((folded : Int) - run.shift).toNat
    if run.first ≤ n ∧ n ≤ run.last ∧ (n - run.first) % run.stride = 0 ∧
        (n : Int) + run.shift = folded then some (Char.ofNat n)
    else Option.none
  c :: Char.ofNat folded :: sources

/-- The characters that differ from one of the class in case only. -/
def foldCase (p : CharClass) : CharClass := fun c => (caseVariants c).any p

/-- The characters that differ from one of the class in the case of an ASCII letter only. -/
def foldAsciiCase (p : CharClass) : CharClass := fun c => p c || p c.toLower || p c.toUpper

/-- The class that a name between `[:` and `:]` stands for. -/
def named? (name : String) : Option CharClass :=
  match name with
  | "alnum" => some fun c => c.isAlphanum
  | "alpha" => some fun c => c.isAlpha
  | "ascii" => some ascii
  | "blank" => some fun c => c = '\t' || c = ' '
  | "cntrl" => some fun c => c.toNat < 32 || c.toNat = 127
  | "digit" => some asciiDigit
  | "graph" => some (range '!' '~')
  | "lower" => some fun c => c.isLower
  | "print" => some (range ' ' '~')
  | "punct" => some fun c => range '!' '~' c && !c.isAlphanum
  | "space" => some asciiSpace
  | "upper" => some fun c => c.isUpper
  | "word" => some asciiWord
  | "xdigit" => some fun c => c.isDigit || range 'a' 'f' c || range 'A' 'F' c
  | _ => Option.none

end CharClass

end AccessPolicy.Pattern
