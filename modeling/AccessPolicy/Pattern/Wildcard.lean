import AccessPolicy.Pattern.RegexReader
import AccessPolicy.Text.Pieces

/-!
# Wildcards and action globs

The two kinds of patterns of a policy. A wildcard pattern is literal text in which `*` stands for
any run of characters and `?` for at most one; neither matches a line feed. An action glob is a
regular expression in which `*` stands for any run of characters. Both become regular expressions
that must match from the start to the end of a text.
-/

namespace AccessPolicy.Pattern

/-- Whether a character has a meaning of its own in regular expressions. -/
def isMeta (c : Char) : Bool :=
  c ∈ ['\\', '.', '+', '*', '?', '(', ')', '|', '[', ']', '\x7b', '\x7d', '^', '$', '#', '&', '-',
    '~']

/-- The text of a regular expression that matches exactly this text. -/
def escape (text : List Char) : List Char :=
  text.flatMap fun c => if isMeta c then ['\\', c] else [c]

/-- The text of the regular expression of a wildcard pattern. -/
def wildcardSource (pattern : List Char) : List Char :=
  let optional := Text.replaceAll ['\\', '?'] ['.', '?'] (escape pattern)
  '^' :: (Text.replaceAll ['\\', '*'] ['.', '*'] optional ++ ['$'])

/-- The regular expression of a wildcard pattern. -/
def wildcard? (pattern : String) : Option Regex :=
  Regex.read? (wildcardSource pattern.toList)

/-- The text of the regular expression of an action glob. -/
def globSource (glob : List Char) : List Char :=
  ['^', '(', '?', ':'] ++ Text.replaceAll ['*'] ['(', '.', '*', ')'] glob ++ [')', '$']

/-- The regular expression of an action glob. -/
def glob? (glob : String) : Option Regex :=
  Regex.read? (globSource glob.toList)

/-- The regular expression of an action glob, unless its text exceeds the limits. -/
def globWithin? (fits : List Char → Bool) (glob : String) : Option Regex :=
  Regex.readWithin? fits (globSource glob.toList)

/-- Whether a pattern that was read, if it could be, matches a text. -/
def matchesText (r : Option Regex) (text : String) : Bool :=
  match r with
  | some r => r.isMatch text.toList
  | none => false

/-- Whether a text, which may be missing, is like a wildcard pattern, which may be missing too. -/
def like : (text pattern : Option String) → Bool
  | none, none => true
  | some text, some pattern => matchesText (wildcard? pattern) text
  | _, _ => false

end AccessPolicy.Pattern
