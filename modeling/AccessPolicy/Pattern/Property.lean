import AccessPolicy.Pattern.PropertyTable
import AccessPolicy.Text.Case
import AccessPolicy.Text.Pieces

/-!
# Classes by character properties

The classes that regular expressions name between `\p{` and `}`: a general category, a script or a
property that a character has or has not, by its name alone, and the value of one of seven
properties, by the names of both (`namedProperty?`). What the standard derives from other
properties is derived here in the same way; the rest stands in the tables.
-/

namespace AccessPolicy.Pattern

namespace CharClass

/-- The characters in some ranges of code points. -/
def ofRanges (ranges : List (Nat × Nat)) : CharClass := fun c => Text.inRanges ranges c.toNat

/-- The characters of one of the classes at least. -/
def anyOf (classes : List CharClass) : CharClass := fun c => classes.any fun p => p c

/-! ### General categories -/

/-- Letters with a case of their own. -/
def casedLetter : CharClass := anyOf [uppercaseLetter, lowercaseLetter, titlecaseLetter]

/-- The characters of the general categories of letters. -/
def categoryLetter : CharClass := anyOf [casedLetter, modifierLetter, otherLetter]

/-- Marks. -/
def mark : CharClass := anyOf [nonspacingMark, spacingMark, enclosingMark]

/-- Numbers. -/
def number : CharClass := anyOf [digit, letterNumber, otherNumber]

/-- Punctuation. -/
def punctuation : CharClass :=
  anyOf [connectorPunctuation, dashPunctuation, openPunctuation, closePunctuation,
    initialPunctuation, finalPunctuation, otherPunctuation]

/-- Symbols. -/
def symbol : CharClass := anyOf [mathSymbol, currencySymbol, modifierSymbol, otherSymbol]

/-- Separators. -/
def separator : CharClass := anyOf [spaceSeparator, lineSeparator, paragraphSeparator]

/-- Characters without any other general category. -/
def unassigned : CharClass :=
  compl (anyOf [categoryLetter, mark, number, punctuation, symbol, separator, control, format,
    privateUse])

/-- Control and format characters, and what has no meaning of its own. -/
def other : CharClass := anyOf [control, format, privateUse, unassigned]

/-- The general categories and their groups. -/
def generalCategories : List NamedClass :=
  [⟨["any"], compl none⟩, ⟨["assigned"], compl unassigned⟩, ⟨["ascii"], ascii⟩,
   ⟨["l", "letter"], categoryLetter⟩, ⟨["lc", "casedletter"], casedLetter⟩,
   ⟨["lu", "uppercaseletter"], uppercaseLetter⟩, ⟨["ll", "lowercaseletter"], lowercaseLetter⟩,
   ⟨["lt", "titlecaseletter"], titlecaseLetter⟩, ⟨["lm", "modifierletter"], modifierLetter⟩,
   ⟨["lo", "otherletter"], otherLetter⟩, ⟨["m", "mark", "combiningmark"], mark⟩,
   ⟨["mn", "nonspacingmark"], nonspacingMark⟩, ⟨["mc", "spacingmark"], spacingMark⟩,
   ⟨["me", "enclosingmark"], enclosingMark⟩, ⟨["n", "number"], number⟩,
   ⟨["nd", "decimalnumber", "digit"], digit⟩, ⟨["nl", "letternumber"], letterNumber⟩,
   ⟨["no", "othernumber"], otherNumber⟩, ⟨["p", "punctuation", "punct"], punctuation⟩,
   ⟨["pc", "connectorpunctuation"], connectorPunctuation⟩,
   ⟨["pd", "dashpunctuation"], dashPunctuation⟩, ⟨["ps", "openpunctuation"], openPunctuation⟩,
   ⟨["pe", "closepunctuation"], closePunctuation⟩,
   ⟨["pi", "initialpunctuation"], initialPunctuation⟩,
   ⟨["pf", "finalpunctuation"], finalPunctuation⟩,
   ⟨["po", "otherpunctuation"], otherPunctuation⟩, ⟨["s", "symbol"], symbol⟩,
   ⟨["sm", "mathsymbol"], mathSymbol⟩, ⟨["sc", "currencysymbol"], currencySymbol⟩,
   ⟨["sk", "modifiersymbol"], modifierSymbol⟩, ⟨["so", "othersymbol"], otherSymbol⟩,
   ⟨["z", "separator"], separator⟩, ⟨["zs", "spaceseparator"], spaceSeparator⟩,
   ⟨["zl", "lineseparator"], lineSeparator⟩, ⟨["zp", "paragraphseparator"], paragraphSeparator⟩,
   ⟨["c", "other"], other⟩, ⟨["cc", "control", "cntrl"], control⟩, ⟨["cf", "format"], format⟩,
   ⟨["cn", "unassigned"], unassigned⟩, ⟨["co", "privateuse"], privateUse⟩]

/-! ### Properties that a character has or has not -/

/-- What makes a character alphabetic that is neither a letter nor a number of letters. -/
def otherAlphabetic : CharClass := diff letter (union categoryLetter letterNumber)

/-- Small letters. -/
def lowercase : CharClass := union lowercaseLetter otherLowercase

/-- Capital letters. -/
def uppercase : CharClass := union uppercaseLetter otherUppercase

/-- Characters of formulas. -/
def math : CharClass := union mathSymbol otherMath

/-- Characters that never stand for anything. -/
def noncharacter : CharClass :=
  union (ofRanges [(0xfdd0, 0xfdef)]) fun c => c.toNat % 0x10000 ≥ 0xfffe

/-- Characters that join others or keep them apart. -/
def joinControl : CharClass := ofRanges [(0x200c, 0x200d)]

/-- The letters that flags are spelled with. -/
def regionalIndicator : CharClass := ofRanges [(0x1f1e6, 0x1f1ff)]

/-- The skin tones of pictures. -/
def emojiModifier : CharClass := ofRanges [(0x1f3fb, 0x1f3ff)]

/-- Characters that extend the one before them. -/
def graphemeExtend : CharClass := anyOf [nonspacingMark, enclosingMark, otherGraphemeExtend]

/-- Characters that others may extend. -/
def graphemeBase : CharClass :=
  compl (anyOf [other, lineSeparator, paragraphSeparator, graphemeExtend])

/-- Characters that may be left out where they are not known. -/
def defaultIgnorable : CharClass :=
  union otherDefaultIgnorable
    (diff (union format variationSelector)
      (anyOf [space, prependedConcatenationMark, ofRanges [(0xfff9, 0xfffb), (0x13430, 0x13440)]]))

/-- The first characters of identifiers. -/
def idStart : CharClass :=
  diff (anyOf [categoryLetter, letterNumber, otherIdStart]) (union patternSyntax patternWhiteSpace)

/-- The other characters of identifiers. -/
def idContinue : CharClass :=
  anyOf [idStart, nonspacingMark, spacingMark, digit, connectorPunctuation, otherIdContinue]

/-- Characters with a lower case. -/
def changesWhenLowercased : CharClass := fun c => Text.lowerChar c != [c]

/-- Characters with an upper case. -/
def changesWhenUppercased : CharClass := fun c => Text.upperChar c != [c]

/-- Characters with a title case: those with an upper case that do not have title case already,
and the capitals of two letters. Georgian letters begin no title. -/
def changesWhenTitlecased : CharClass :=
  union
    (diff changesWhenUppercased
      (union titlecaseLetter (ofRanges [(0x10d0, 0x10fa), (0x10fd, 0x10ff)])))
    (ofRanges [(0x1c4, 0x1c4), (0x1c7, 0x1c7), (0x1ca, 0x1ca), (0x1f1, 0x1f1)])

/-- Characters that case folding changes, other than the one that is a form of a letter that it
does not change. -/
def changesWhenCasefolded : CharClass :=
  union foldsToSeveral fun c =>
    Text.CaseRun.apply Text.foldRuns c.toNat != c.toNat && c.toNat != 0x1fbe

/-- The properties that a character has or has not. -/
def properties : List NamedClass :=
  [⟨["ahex", "asciihexdigit"], ofRanges [(0x30, 0x39), (0x41, 0x46), (0x61, 0x66)]⟩,
   ⟨["alpha", "alphabetic"], letter⟩, ⟨["bidic", "bidicontrol"], bidiControl⟩,
   ⟨["cased"], anyOf [lowercase, uppercase, titlecaseLetter]⟩,
   ⟨["ci", "caseignorable"], ofRanges Text.caseIgnorableRanges⟩,
   ⟨["cwcf", "changeswhencasefolded"], changesWhenCasefolded⟩,
   ⟨["cwcm", "changeswhencasemapped"],
     anyOf [changesWhenLowercased, changesWhenUppercased, changesWhenTitlecased]⟩,
   ⟨["cwl", "changeswhenlowercased"], changesWhenLowercased⟩,
   ⟨["cwt", "changeswhentitlecased"], changesWhenTitlecased⟩,
   ⟨["cwu", "changeswhenuppercased"], changesWhenUppercased⟩, ⟨["dash"], dash⟩,
   ⟨["dep", "deprecated"], deprecated⟩, ⟨["di", "defaultignorablecodepoint"], defaultIgnorable⟩,
   ⟨["dia", "diacritic"], diacritic⟩, ⟨["ebase", "emojimodifierbase"], emojiModifierBase⟩,
   ⟨["ecomp", "emojicomponent"], emojiComponent⟩, ⟨["emod", "emojimodifier"], emojiModifier⟩,
   ⟨["emoji"], emoji⟩, ⟨["epres", "emojipresentation"], emojiPresentation⟩,
   ⟨["ext", "extender"], extender⟩, ⟨["extpict", "extendedpictographic"], extendedPictographic⟩,
   ⟨["grbase", "graphemebase"], graphemeBase⟩, ⟨["grext", "graphemeextend"], graphemeExtend⟩,
   ⟨["grlink", "graphemelink"], graphemeLink⟩, ⟨["hex", "hexdigit"], hexDigit⟩,
   ⟨["hyphen"], hyphen⟩, ⟨["idc", "idcontinue"], idContinue⟩,
   ⟨["ideo", "ideographic"], ideographic⟩, ⟨["ids", "idstart"], idStart⟩,
   ⟨["idsb", "idsbinaryoperator"], idsBinaryOperator⟩,
   ⟨["idst", "idstrinaryoperator"], idsTrinaryOperator⟩, ⟨["joinc", "joincontrol"], joinControl⟩,
   ⟨["loe", "logicalorderexception"], logicalOrderException⟩, ⟨["lower", "lowercase"], lowercase⟩,
   ⟨["math"], math⟩, ⟨["nchar", "noncharactercodepoint"], noncharacter⟩,
   ⟨["oalpha", "otheralphabetic"], otherAlphabetic⟩,
   ⟨["odi", "otherdefaultignorablecodepoint"], otherDefaultIgnorable⟩,
   ⟨["ogrext", "othergraphemeextend"], otherGraphemeExtend⟩,
   ⟨["oidc", "otheridcontinue"], otherIdContinue⟩, ⟨["oids", "otheridstart"], otherIdStart⟩,
   ⟨["olower", "otherlowercase"], otherLowercase⟩, ⟨["omath", "othermath"], otherMath⟩,
   ⟨["oupper", "otheruppercase"], otherUppercase⟩, ⟨["patsyn", "patternsyntax"], patternSyntax⟩,
   ⟨["patws", "patternwhitespace"], patternWhiteSpace⟩,
   ⟨["pcm", "prependedconcatenationmark"], prependedConcatenationMark⟩,
   ⟨["qmark", "quotationmark"], quotationMark⟩, ⟨["radical"], radical⟩,
   ⟨["ri", "regionalindicator"], regionalIndicator⟩, ⟨["sd", "softdotted"], softDotted⟩,
   ⟨["space", "wspace", "whitespace"], space⟩, ⟨["sterm", "sentenceterminal"], sentenceTerminal⟩,
   ⟨["term", "terminalpunctuation"], terminalPunctuation⟩,
   ⟨["uideo", "unifiedideograph"], unifiedIdeograph⟩, ⟨["upper", "uppercase"], uppercase⟩,
   ⟨["vs", "variationselector"], variationSelector⟩,
   ⟨["xidc", "xidcontinue"], diff idContinue unstableContinue⟩,
   ⟨["xids", "xidstart"], diff idStart unstableStart⟩]

/-! ### Scripts and ages -/

/-- The characters of the scripts with one of the names. -/
def ofScripts (names : List String) : CharClass :=
  anyOf ((scripts.filter fun script => script.names.any (· ∈ names)).map (·.members))

/-- The characters that texts in a script use. Characters that scripts share are no longer common
to all of them. -/
def scriptExtensions? (name : String) : Option CharClass :=
  (scripts.find? fun script => name ∈ script.names).map fun script =>
    let shared := sharedScripts.filter fun entry => entry.names.any (· ∈ script.names)
    union (diff script.members (anyOf (sharedScripts.map (·.members))))
      (anyOf (shared.map (·.members)))

/-- The characters that a version of Unicode has, with those of the versions before it. -/
def age? (name : String) : Option CharClass :=
  (NamedClass.find? ages name).map fun added =>
    let earlier := ages.takeWhile fun age => name ∉ age.names
    union added (anyOf (earlier.map (·.members)))

/-! ### Boundaries in texts -/

/-- The syllables of Hangul, or those of them that end with a vowel. -/
def hangulSyllable (endsWithVowel : Bool) : CharClass := fun c =>
  ofRanges [(0xac00, 0xd7a3)] c && ((c.toNat - 0xac00) % 28 == 0) == endsWithVowel

/-- The classes of clusters of characters. -/
def graphemeBreaks : List NamedClass :=
  let feeds := union (single '\r') (single '\n')
  [⟨["cr"], single '\r'⟩, ⟨["lf"], single '\n'⟩,
   ⟨["cn", "control"],
     diff (anyOf [control, format, lineSeparator, paragraphSeparator,
         inter unassigned defaultIgnorable])
       (anyOf [feeds, joinControl, prependedConcatenationMark, graphemeExtend])⟩,
   ⟨["ex", "extend"], union graphemeExtend emojiModifier⟩,
   ⟨["zwj"], ofRanges [(0x200d, 0x200d)]⟩, ⟨["ri", "regionalindicator"], regionalIndicator⟩,
   ⟨["pp", "prepend"], union prependedConcatenationMark prependLetter⟩,
   ⟨["sm", "spacingmark"],
     union (diff spacingMark (union graphemeExtend looseMark))
       (ofRanges [(0xe33, 0xe33), (0xeb3, 0xeb3)])⟩,
   ⟨["l"], ofRanges [(0x1100, 0x115f), (0xa960, 0xa97c)]⟩,
   ⟨["v"], ofRanges [(0x1160, 0x11a7), (0xd7b0, 0xd7c6)]⟩,
   ⟨["t"], ofRanges [(0x11a8, 0x11ff), (0xd7cb, 0xd7fb)]⟩,
   ⟨["lv"], hangulSyllable true⟩, ⟨["lvt"], hangulSyllable false⟩]

/-- Marks that belong to the character before them, also in the middle of a word. -/
def wordExtend : CharClass := union graphemeExtend spacingMark

/-- The classes of words. -/
def wordBreaks : List NamedClass :=
  let joiner := ofRanges [(0x200d, 0x200d)]
  let extend := diff (union wordExtend emojiModifier) joiner
  let katakana := union (ofScripts ["kana"]) katakanaLike
  let hebrew := inter (ofScripts ["hebr"]) otherLetter
  -- Words of these scripts are found by their meaning only.
  let unspaced :=
    ofScripts ["thai", "laoo", "mymr", "khmr", "tale", "talu", "lana", "tavt", "ahom", "hira"]
  [⟨["cr"], single '\r'⟩, ⟨["lf"], single '\n'⟩,
   ⟨["nl", "newline"], ofRanges [(0xb, 0xc), (0x85, 0x85), (0x2028, 0x2029)]⟩,
   ⟨["extend"], extend⟩, ⟨["zwj"], joiner⟩, ⟨["ri", "regionalindicator"], regionalIndicator⟩,
   ⟨["fo", "format"],
     diff format (union (ofRanges [(0x200b, 0x200d)]) graphemeExtend)⟩,
   ⟨["ka", "katakana"], katakana⟩, ⟨["hl", "hebrewletter"], hebrew⟩,
   ⟨["le", "aletter"],
     union letterLike
       (diff letter (anyOf [ideographic, katakana, hebrew, unspaced, extend]))⟩,
   ⟨["sq", "singlequote"], single '\''⟩, ⟨["dq", "doublequote"], single '"'⟩,
   ⟨["mb", "midnumlet"], midNumLet⟩, ⟨["ml", "midletter"], midLetter⟩,
   ⟨["mn", "midnum"], midNum⟩,
   ⟨["nu", "numeric"], union digit (ofRanges [(0x66b, 0x66b)])⟩,
   ⟨["ex", "extendnumlet"], extendNumLet⟩, ⟨["wsegspace"], wordSpace⟩]

/-- The classes of sentences. -/
def sentenceBreaks : List NamedClass :=
  let feeds := union (single '\r') (single '\n')
  let sep := ofRanges [(0x85, 0x85), (0x2028, 0x2029)]
  let extend := union wordExtend joinControl
  let lower := diff lowercase
    (union graphemeExtend (ofRanges [(0x10d0, 0x10fa), (0x10fd, 0x10ff)]))
  let upper := diff (union uppercase titlecaseLetter)
    (ofRanges [(0x1c90, 0x1cba), (0x1cbd, 0x1cbf)])
  let terminal := diff sentenceTerminal periodLike
  [⟨["cr"], single '\r'⟩, ⟨["lf"], single '\n'⟩, ⟨["se", "sep"], sep⟩,
   ⟨["ex", "extend"], extend⟩,
   ⟨["fo", "format"], diff format (union joinControl graphemeExtend)⟩,
   ⟨["sp"], diff space (union sep feeds)⟩, ⟨["lo", "lower"], lower⟩, ⟨["up", "upper"], upper⟩,
   ⟨["le", "oletter"],
     diff (union letter (ofRanges [(0x5f3, 0x5f3)])) (anyOf [lower, upper, extend])⟩,
   ⟨["nu", "numeric"], union digit (ofRanges [(0x66b, 0x66c)])⟩,
   ⟨["at", "aterm"], periodLike⟩, ⟨["sc", "scontinue"], sentenceContinue⟩,
   ⟨["st", "sterm"], terminal⟩,
   ⟨["cl", "close"],
     union closeLike (diff (anyOf [openPunctuation, closePunctuation, initialPunctuation,
       finalPunctuation]) (union periodLike terminal))⟩]

/-! ### Names -/

/-- The class of a general category, a script or a property that a character has or has not. -/
def property? (name : String) : Option CharClass :=
  NamedClass.find? properties name <|> NamedClass.find? generalCategories name <|>
    NamedClass.find? scripts name

/-- The class of the characters for which a property has a value. -/
def propertyValue? (property value : String) : Option CharClass :=
  match property with
  | "gc" | "generalcategory" => NamedClass.find? generalCategories value
  | "sc" | "script" => NamedClass.find? scripts value
  | "scx" | "scriptextensions" => scriptExtensions? value
  | "age" => age? value
  | "gcb" | "graphemeclusterbreak" => NamedClass.find? graphemeBreaks value
  | "wb" | "wordbreak" => NamedClass.find? wordBreaks value
  | "sb" | "sentencebreak" => NamedClass.find? sentenceBreaks value
  | _ => Option.none

/-- A name as the tables have it: small letters without blanks, dashes, underscores and characters
beyond ASCII, and without `is` in front, unless this leaves the name of a category. -/
def propertyName (text : List Char) : String :=
  let reduce (text : List Char) : List Char :=
    (text.filter fun c => c.toNat < 128 && c ∉ [' ', '-', '_']).map Char.toLower
  match text with
  | i :: s :: rest =>
    if i.toLower = 'i' ∧ s.toLower = 's' then
      if reduce rest = ['c'] then "isc" else String.ofList (reduce rest)
    else String.ofList (reduce text)
  | _ => String.ofList (reduce text)

/-- The class that stands between braces: a name alone, or the names of a property and its value.
Either sign between them says that the property has the value. -/
def namedProperty? (text : List Char) : Option CharClass :=
  match Text.cutAt? ['!', '='] text <|> Text.cutAt? [':'] text <|> Text.cutAt? ['='] text with
  | some (property, value) => propertyValue? (propertyName property) (propertyName value)
  | Option.none => property? (propertyName text)

end CharClass

end AccessPolicy.Pattern
