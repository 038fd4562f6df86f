/-
# Names of character properties

The names by which a pattern refers to sets of characters: general categories with their groups, traits,
scripts, and the values of properties. They are what the tables of this library know.
-/
import TextAnalysis.Text
import TextAnalysis.Text.Age
import TextAnalysis.Text.Script.Eastern
import TextAnalysis.Text.Script.Shared
import TextAnalysis.Text.Script.Western
import TextAnalysis.Pattern.CharSet.Boundary

namespace TextAnalysis.CharSet

open Category

/-- Short and long names of the general categories and of their groups. -/
def categoryNames : List (List String × List Category) :=
  [(["lu", "uppercaseletter"], [uppercaseLetter]),
   (["ll", "lowercaseletter"], [lowercaseLetter]),
   (["lt", "titlecaseletter"], [titlecaseLetter]),
   (["lc", "casedletter"], casedLetters),
   (["lm", "modifierletter"], [modifierLetter]),
   (["lo", "otherletter"], [otherLetter]),
   (["l", "letter"], letters),
   (["mn", "nonspacingmark"], [nonspacingMark]),
   (["mc", "spacingmark"], [spacingMark]),
   (["me", "enclosingmark"], [enclosingMark]),
   (["m", "mark", "combiningmark"], marks),
   (["nd", "decimalnumber", "digit"], [decimalNumber]),
   (["nl", "letternumber"], [letterNumber]),
   (["no", "othernumber"], [otherNumber]),
   (["n", "number"], numbers),
   (["pc", "connectorpunctuation"], [connectorPunctuation]),
   (["pd", "dashpunctuation"], [dashPunctuation]),
   (["ps", "openpunctuation"], [openPunctuation]),
   (["pe", "closepunctuation"], [closePunctuation]),
   (["pi", "initialpunctuation"], [initialPunctuation]),
   (["pf", "finalpunctuation"], [finalPunctuation]),
   (["po", "otherpunctuation"], [otherPunctuation]),
   (["p", "punctuation", "punct"], punctuation),
   (["sm", "mathsymbol"], [mathSymbol]),
   (["sc", "currencysymbol"], [currencySymbol]),
   (["sk", "modifiersymbol"], [modifierSymbol]),
   (["so", "othersymbol"], [otherSymbol]),
   (["s", "symbol"], symbols),
   (["zs", "spaceseparator"], [spaceSeparator]),
   (["zl", "lineseparator"], [lineSeparator]),
   (["zp", "paragraphseparator"], [paragraphSeparator]),
   (["z", "separator"], separators),
   (["cc", "control", "cntrl"], [control]),
   (["cf", "format"], [format]),
   (["cn", "unassigned"], [unassigned]),
   (["co", "privateuse"], [privateUse]),
   (["cs", "surrogate"], [surrogate]),
   (["c", "other"], others)]

/-- Names that stand with the general categories without being one. -/
def kindNames : Named :=
  [(["any"], all),
   (["assigned"], (categories [unassigned]).complement),
   (["ascii"], ascii)]

/-- Short and long names of the traits of characters. -/
def traitNames : Named :=
  [(["alphabetic", "alpha"], alphabetic),
   (["asciihexdigit", "ahex"], table CharRange.asciiHexDigits),
   (["bidicontrol", "bidic"], table CharRange.bidiControls),
   (["caseignorable", "ci"], caseIgnorable),
   (["cased"], cased),
   (["changeswhencasefolded", "cwcf"], movedByFolding),
   (["changeswhencasemapped", "cwcm"], movedByCase),
   (["changeswhenlowercased", "cwl"], movedByLowercase),
   (["changeswhentitlecased", "cwt"], movedByTitlecase),
   (["changeswhenuppercased", "cwu"], movedByUppercase),
   (["dash"], table CharRange.dashes),
   (["defaultignorablecodepoint", "di"], ignorable),
   (["deprecated", "dep"], table CharRange.deprecated),
   (["diacritic", "dia"], table CharRange.diacritics),
   (["emoji"], table CharRange.emoji),
   (["emojicomponent", "ecomp"], table CharRange.emojiComponents),
   (["emojimodifier", "emod"], table CharRange.emojiModifiers),
   (["emojimodifierbase", "ebase"], table CharRange.emojiModifierBases),
   (["emojipresentation", "epres"], table CharRange.emojiPresentations),
   (["extendedpictographic", "extpict"], table CharRange.pictographs),
   (["extender", "ext"], table CharRange.extenders),
   (["graphemebase", "grbase"], standing),
   (["graphemeextend", "grext"], extending),
   (["graphemelink", "grlink"], table CharRange.graphemeLinks),
   (["hexdigit", "hex"], table CharRange.hexDigits),
   (["hyphen"], table CharRange.hyphens),
   (["idcompatmathcontinue"], table (CharRange.mathNameParts ++ CharRange.mathNameStarts)),
   (["idcompatmathstart"], table CharRange.mathNameStarts),
   (["idcontinue", "idc"], nameParts),
   (["ideographic", "ideo"], table CharRange.ideographs),
   (["idsbinaryoperator", "idsb"], table CharRange.binaryDescriptions),
   (["idstart", "ids"], nameStarts),
   (["idstrinaryoperator", "idst"], table CharRange.ternaryDescriptions),
   (["idsunaryoperator", "idsu"], table CharRange.unaryDescriptions),
   (["joincontrol", "joinc"], table CharRange.joiners),
   (["logicalorderexception", "loe"], table CharRange.exceptionsOfOrder),
   (["lowercase", "lower"], lowercase),
   (["math"], mathematical),
   (["modifiercombiningmark", "mcm"], table CharRange.modifierMarks),
   (["noncharactercodepoint", "nchar"], table CharRange.noncharacters),
   (["otheralphabetic", "oalpha"], table CharRange.otherAlphabetic),
   (["otherdefaultignorablecodepoint", "odi"], table CharRange.otherDefaultIgnorable),
   (["othergraphemeextend", "ogrext"], table CharRange.otherGraphemeExtend),
   (["otheridcontinue", "oidc"], table CharRange.otherNameParts),
   (["otheridstart", "oids"], table CharRange.otherNameStarts),
   (["otherlowercase", "olower"], table CharRange.otherLowercase),
   (["othermath", "omath"], table CharRange.otherMath),
   (["otheruppercase", "oupper"], table CharRange.otherUppercase),
   (["patternsyntax", "patsyn"], table CharRange.patternSyntax),
   (["patternwhitespace", "patws"], table CharRange.patternWhiteSpace),
   (["prependedconcatenationmark", "pcm"], table CharRange.prependedMarks),
   (["quotationmark", "qmark"], table CharRange.quotationMarks),
   (["radical"], table CharRange.radicals),
   (["regionalindicator", "ri"], table CharRange.regionalIndicators),
   (["sentenceterminal", "sterm"], table CharRange.sentenceEnds),
   (["softdotted", "sd"], table CharRange.softDotted),
   (["terminalpunctuation", "term"], table CharRange.clauseEnds),
   (["unifiedideograph", "uideo"], table CharRange.unifiedIdeographs),
   (["uppercase", "upper"], uppercase),
   (["variationselector", "vs"], table CharRange.variationSelectors),
   (["whitespace", "wspace", "space"], blank),
   (["xidcontinue", "xidc"], stableNameParts),
   (["xidstart", "xids"], stableNameStarts)]

/-- A name in lower case, without "is" in front and without spaces, hyphens, underscores and characters that
are not ASCII. -/
def looseName (name : Text) : Text :=
  let bare (text : Text) : Text := text.filter fun c => c.toNat < 0x80 && c != ' ' && c != '_' && c != '-'
  match Text.asciiLowercase name with
  | 'i' :: 's' :: rest => if bare rest = ['c'] then ['i', 's', 'c'] else bare rest
  | lower => bare lower

/-! ## Properties with values -/

/-- The set that has a loose name among others. -/
def Named.set? (sets : Named) (loose : Text) : Option CharSet :=
  (List.find? (fun named => named.1.any (·.toList == loose)) sets).map (·.2)

/-- The general category or group with a loose name. -/
def ofCategoryName? (loose : Text) : Option CharSet :=
  ((categoryNames.find? (·.1.any (·.toList == loose))).map fun found => categories found.2).or
    (kindNames.set? loose)

/-- All scripts. -/
def scripts : List NamedRanges :=
  CharRange.europeanScripts ++ CharRange.middleEasternScripts ++ CharRange.africanScripts ++
    CharRange.americanScripts ++ CharRange.southAsianScripts ++ CharRange.eastAsianScripts ++
    CharRange.signSystems ++ CharRange.sharedScripts

/-- The script with a loose name. -/
def script? (loose : Text) : Option NamedRanges :=
  scripts.find? (·.names.any (·.toList == loose))

/-- The characters that a script uses: its own, unless others use them in its place, and those of other
scripts that are used in it. -/
def usedIn (script : NamedRanges) : CharSet :=
  let borrowed := CharRange.usedInScripts.filter (·.names.any script.names.contains)
  ((table script.ranges).difference (table (CharRange.usedInScripts.flatMap (·.ranges)))).union
    (table (borrowed.flatMap (·.ranges)))

/-- The characters of an edition of the tables and of those before it. -/
def ofEdition? (loose : Text) : Option CharSet :=
  let earlier := CharRange.editions.takeWhile fun edition => !edition.names.any (·.toList == loose)
  CharRange.editions[earlier.length]?.map fun edition => table ((earlier ++ [edition]).flatMap (·.ranges))

/-- What the values of the properties with values stand for, with the names of the properties. -/
def valueNames : List (List String × (Text → Option CharSet)) :=
  [(["generalcategory", "gc"], ofCategoryName?),
   (["script", "sc"], fun loose => (script? loose).map fun script => table script.ranges),
   (["scriptextensions", "scx"], fun loose => (script? loose).map usedIn),
   (["age"], ofEdition?),
   (["graphemeclusterbreak", "gcb"], clusterKinds.set?),
   (["wordbreak", "wb"], wordKinds.set?),
   (["sentencebreak", "sb"], sentenceKinds.set?)]

/-- The set with a loose name: a general category or a group of them, a trait, or a script. -/
def ofLooseName? (loose : Text) : Option CharSet :=
  ((ofCategoryName? loose).or (traitNames.set? loose)).or
    ((script? loose).map fun script => table script.ranges)

/-- The set of a value of a property. -/
def ofValue? (property value : Text) : Option CharSet :=
  (valueNames.find? (·.1.any (·.toList == looseName property))).bind fun found => found.2 (looseName value)

/-- The set that a pattern calls by a name, or by a property and a value after an equals sign, a colon, or an
unequal sign for the complement. -/
def ofPropertyName? (name : Text) : Option CharSet :=
  let property := name.takeWhile fun c => c != '=' && c != ':' && c != '!'
  match name.drop property.length with
  | '!' :: '=' :: value => (ofValue? property value).map complement
  | '=' :: value => ofValue? property value
  | ':' :: value => ofValue? property value
  | _ => ofLooseName? (looseName name)

/-- The tables of this library. -/
instance tables : Tables where
  decimal := decimal
  blank := blank
  word := word
  caseClosed := caseClosed
  property? := ofPropertyName?
  startsName c := c == '_' || Text.isAlphabetic c
  continuesName c := c == '_' || c == '.' || c == '[' || c == ']' || Text.isAlphabetic c || Text.isNumeric c

end TextAnalysis.CharSet
