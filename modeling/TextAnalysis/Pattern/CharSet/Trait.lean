/-
# Sets by traits

The sets of the characters with a trait: what has a case and changes with it, what names are made of, what joins
the character before it, what shows nothing. Most traits are general categories up to a table of exceptions.
-/
import TextAnalysis.Text.Boundary
import TextAnalysis.Text.Trait
import TextAnalysis.Pattern.CharSet

namespace TextAnalysis.CharSet

open Category

/-! ## Case -/

/-- Lower case letters and what is used like them. -/
def lowercase : CharSet :=
  (categories [lowercaseLetter]).union (table CharRange.otherLowercase)

/-- Upper case letters and what is used like them. -/
def uppercase : CharSet :=
  (categories [uppercaseLetter]).union (table CharRange.otherUppercase)

/-- Characters with a case. -/
def cased : CharSet :=
  (lowercase.union uppercase).union (categories [titlecaseLetter])

/-- Characters that the case of their neighbours looks through. -/
def caseIgnorable : CharSet :=
  unionAll [categories [nonspacingMark, enclosingMark, format, modifierLetter, modifierSymbol],
    table (CharRange.wordJoints ++ CharRange.commonJoints), single '\x27']

/-- Characters that differ from their lower case. -/
def movedByLowercase : CharSet :=
  (uppercase.union (categories [titlecaseLetter])).difference (table CharRange.unmovedCapitals)

/-- Characters that differ from their upper case. -/
def movedByUppercase : CharSet :=
  table CharRange.movedByUppercase

/-- Characters that differ from their title case. -/
def movedByTitlecase : CharSet :=
  (movedByUppercase.difference (table CharRange.onlyUppercased)).union (table CharRange.onlyTitlecased)

/-- Characters that differ from the character that stands for all their cases. -/
def movedByFolding : CharSet :=
  (movedByLowercase.difference (table CharRange.unfoldedCapitals)).union (table CharRange.foldedLowercase)

/-- Characters that differ from one of their cases. -/
def movedByCase : CharSet :=
  unionAll [movedByLowercase, movedByUppercase, movedByTitlecase]

/-! ## Names and formulas -/

/-- Characters of formulas. -/
def mathematical : CharSet :=
  (categories [mathSymbol]).union (table CharRange.otherMath)

/-- Characters that notations keep for themselves, with their white space. -/
def notational : CharSet :=
  table (CharRange.patternSyntax ++ CharRange.patternWhiteSpace)

/-- Characters that names may start with. -/
def nameStarts : CharSet :=
  ((categories (letterNumber :: letters)).union (table CharRange.otherNameStarts)).difference notational

/-- Characters that names may go on with. -/
def nameParts : CharSet :=
  unionAll [nameStarts,
    (categories [nonspacingMark, spacingMark, decimalNumber, connectorPunctuation]).difference notational,
    table CharRange.otherNameParts]

/-- Characters that names and all their compatible forms may start with. -/
def stableNameStarts : CharSet :=
  nameStarts.difference (table CharRange.unstableNameStarts)

/-- Characters that names and all their compatible forms may go on with. -/
def stableNameParts : CharSet :=
  nameParts.difference (table CharRange.unstableNameParts)

/-! ## Parts of what a reader takes for one character -/

/-- Characters that join the one before them. -/
def extending : CharSet :=
  (categories [nonspacingMark, enclosingMark]).union (table CharRange.otherGraphemeExtend)

/-- Characters that stand for themselves. -/
def standing : CharSet :=
  (unionAll [categories [control, format, surrogate, privateUse, unassigned, lineSeparator, paragraphSeparator],
    extending]).complement

/-- Characters that show nothing by default. -/
def ignorable : CharSet :=
  ((categories [format]).difference (table CharRange.shownFormats)).union
    (table (CharRange.otherDefaultIgnorable ++ CharRange.variationSelectors))

end TextAnalysis.CharSet
