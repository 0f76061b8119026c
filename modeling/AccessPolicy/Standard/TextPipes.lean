import AccessPolicy.Expression.Pipe
import AccessPolicy.Json.Coercion
import AccessPolicy.Text.FormEncoding

/-!
# Pipes on texts

The pipes that treat a value as text. Most of them treat the items of a list one by one; null
stays null.
-/

namespace AccessPolicy.Standard

/-- The transformation of texts, one by one, where some text may have no result. -/
def tryTexts (f : String → Option String) : Transform :=
  .pure fun v => v.mapItems fun item => ((item.toText?.bind f).map .string).getD .null

/-- The transformation of texts, one by one. -/
def eachText (f : String → String) : Transform :=
  tryTexts fun text => some (f text)

/-- A telephone number of ten ASCII characters in the American form. -/
def formatPhone (text : String) : String :=
  let digits := Text.trim text.toList
  if digits.length = 10 && digits.all (·.toNat < 128) then
    String.ofList (['('] ++ digits.take 3 ++ [')', ' '] ++ (digits.drop 3).take 3 ++ ['-'] ++
      digits.drop 6)
  else String.ofList digits

/-- Puts a text after the text of a value. -/
def appendPipe : Pipe :=
  .optional fun arg => .pure fun v =>
    (v.toText?.map fun text => .string (text ++ arg.getD "")).getD .null

/-- Puts a text in front of the text of a value. -/
def prependPipe : Pipe :=
  .optional fun arg => .pure fun v =>
    (v.toText?.map fun text => .string (arg.getD "" ++ text)).getD .null

/-- The texts of a list in one text, without those of null. -/
def joinItems (separator : String) : Value → Value
  | .array items => .string (separator.intercalate (items.filterMap Value.toText?))
  | v => v

/-- Joins the items of a list. -/
def joinPipe : Pipe :=
  .optional fun arg => .pure (joinItems (arg.getD ", "))

/-- The pieces of the text of a value. -/
def splitText (separator : String) (v : Value) : List Value :=
  match v.toText? with
  | some text =>
    (Text.split separator.toList text.toList).map fun piece => .string (String.ofList piece)
  | none => []

/-- The list of all pieces of the texts of a value. -/
def splitValue (separator : String) : Value → Value
  | .null => .null
  | .array items => .array (items.flatMap (splitText separator))
  | v => .array (splitText separator v)

/-- Splits texts. -/
def splitPipe : Pipe :=
  .optional fun arg => .pure (splitValue (arg.getD ","))

/-- Makes null of empty texts. -/
def emptyToNull : Transform :=
  .pure fun v => v.mapItems fun item =>
    match item with
    | .string "" => .null
    | item => item

/-- Drops characters from texts. -/
def removeCharsPipe : Pipe :=
  .optional fun arg =>
    eachText fun text => String.ofList (text.toList.filter fun c => c ∉ (arg.getD "").toList)

/-- The pipes on texts. -/
def textPipes : Registry Pipe :=
  .ofEntries [
    ("upperCase", .plain (eachText Text.upper)),
    ("lowerCase", .plain (eachText Text.lower)),
    ("capitalize", .plain (eachText Text.capitalized)),
    ("trim", .plain (eachText Text.trimmed)),
    ("formatPhone", .plain (eachText formatPhone)),
    ("urlEncode", .plain (eachText Text.formEncode)),
    ("urlDecode", .plain (tryTexts Text.formDecode?)),
    ("append", appendPipe),
    ("prepend", prependPipe),
    ("join", joinPipe),
    ("split", splitPipe),
    ("emptyToNull", .plain emptyToNull),
    ("removeChars", removeCharsPipe)]

end AccessPolicy.Standard
