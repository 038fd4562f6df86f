/-
# Character properties

The general categories of characters and the properties built from them: white space, alphabetic
characters, and the two properties that decide the lower case of a final sigma.
-/
import TextAnalysis.Text
import TextAnalysis.Text.CharRange
import TextAnalysis.Text.Category.Letters
import TextAnalysis.Text.Category.Marks
import TextAnalysis.Text.Category.Numbers
import TextAnalysis.Text.Category.Punctuation
import TextAnalysis.Text.Category.Symbols
import TextAnalysis.Text.Category.Others
import TextAnalysis.Text.Category.Recent

namespace TextAnalysis

/-- The general categories of characters; a character without one of the first is unassigned. -/
inductive Category where
  | uppercaseLetter | lowercaseLetter | titlecaseLetter | modifierLetter | otherLetter
  | nonspacingMark | spacingMark | enclosingMark
  | decimalNumber | letterNumber | otherNumber
  | connectorPunctuation | dashPunctuation | openPunctuation | closePunctuation
  | initialPunctuation | finalPunctuation | otherPunctuation
  | mathSymbol | currencySymbol | modifierSymbol | otherSymbol
  | spaceSeparator | lineSeparator | paragraphSeparator
  | control | format | privateUse | surrogate | unassigned
  deriving DecidableEq, Repr

namespace Category

open CharRange

/-- The table of a category; surrogates are not characters, and the unassigned characters are those in
no table. -/
def ranges : Category → List CharRange
  | uppercaseLetter => uppercaseLetters
  | lowercaseLetter => lowercaseLetters
  | titlecaseLetter => titlecaseLetters
  | modifierLetter => modifierLetters
  | otherLetter => otherLetters
  | nonspacingMark => nonspacingMarks
  | spacingMark => spacingMarks
  | enclosingMark => enclosingMarks
  | decimalNumber => decimalNumbers
  | letterNumber => letterNumbers
  | otherNumber => otherNumbers
  | connectorPunctuation => CharRange.connectorPunctuation
  | dashPunctuation => CharRange.dashPunctuation
  | openPunctuation => CharRange.openPunctuation
  | closePunctuation => CharRange.closePunctuation
  | initialPunctuation => CharRange.initialPunctuation
  | finalPunctuation => CharRange.finalPunctuation
  | otherPunctuation => CharRange.otherPunctuation
  | mathSymbol => mathSymbols
  | currencySymbol => currencySymbols
  | modifierSymbol => modifierSymbols
  | otherSymbol => otherSymbols
  | spaceSeparator => spaceSeparators
  | lineSeparator => lineSeparators
  | paragraphSeparator => paragraphSeparators
  | control => controls
  | format => formats
  | privateUse => privateUses
  | surrogate => []
  | unassigned => []

/-- The three kinds of cased letters. -/
def casedLetters : List Category :=
  [uppercaseLetter, lowercaseLetter, titlecaseLetter]

/-- The five kinds of letters. -/
def letters : List Category :=
  casedLetters ++ [modifierLetter, otherLetter]

/-- The three kinds of marks. -/
def marks : List Category :=
  [nonspacingMark, spacingMark, enclosingMark]

/-- The three kinds of numbers. -/
def numbers : List Category :=
  [decimalNumber, letterNumber, otherNumber]

/-- The seven kinds of punctuation. -/
def punctuation : List Category :=
  [connectorPunctuation, dashPunctuation, openPunctuation, closePunctuation, initialPunctuation,
    finalPunctuation, otherPunctuation]

/-- The four kinds of symbols. -/
def symbols : List Category :=
  [mathSymbol, currencySymbol, modifierSymbol, otherSymbol]

/-- The three kinds of separators. -/
def separators : List Category :=
  [spaceSeparator, lineSeparator, paragraphSeparator]

/-- Everything that is no letter, mark, number, punctuation, symbol or separator. -/
def others : List Category :=
  [control, format, privateUse, surrogate, unassigned]

/-- Every category with a table. -/
def assigned : List Category :=
  letters ++ marks ++ numbers ++ punctuation ++ symbols ++ separators ++
    [control, format, privateUse]

/-- Whether a character belongs to a category. -/
def contains (k : Category) (c : Char) : Bool :=
  match k with
  | unassigned => !assigned.any fun k => anyContains k.ranges c
  | k => anyContains k.ranges c

end Category

namespace Text

/-! ## Properties -/

/-- Characters that are newer than the category tables. -/
def isRecent (c : Char) : Bool :=
  CharRange.anyContains CharRange.recent c

/-- White space. -/
def isBlank (c : Char) : Bool :=
  CharRange.anyContains CharRange.whiteSpace c

/-- Letters enclosed in circles or squares, which are symbols by category and letters by use. -/
def isEnclosedLetter (c : Char) : Bool :=
  CharRange.anyContains CharRange.enclosedLetters c

/-- Letters of any kind, letter numbers and what is used like letters. -/
def isAlphabetic (c : Char) : Bool :=
  Category.letters.any (·.contains c) || Category.letterNumber.contains c ||
    CharRange.anyContains CharRange.otherAlphabetic c || CharRange.anyContains CharRange.recentAlphabetic c

/-- Numbers of any kind. -/
def isNumeric (c : Char) : Bool :=
  Category.numbers.any (·.contains c) || CharRange.anyContains CharRange.recentNumbers c

/-- Characters that the case of their neighbours looks through: marks without width, modifiers, format
characters and some punctuation inside words. -/
def isCaseIgnorable (c : Char) : Bool :=
  [Category.nonspacingMark, .enclosingMark, .format, .modifierLetter, .modifierSymbol].any
      (·.contains c) ||
    CharRange.anyContains CharRange.recentCaseIgnorable c ||
    CharRange.anyContains
      [⟨0x27, 0x27, 1⟩, ⟨0x2E, 0x2E, 1⟩, ⟨0x3A, 0x3A, 1⟩, ⟨0xB7, 0xB7, 1⟩, ⟨0x387, 0x387, 1⟩,
        ⟨0x55F, 0x55F, 1⟩, ⟨0x5F4, 0x5F4, 1⟩, ⟨0x2018, 0x2019, 1⟩, ⟨0x2024, 0x2024, 1⟩,
        ⟨0x2027, 0x2027, 1⟩, ⟨0xFE13, 0xFE13, 1⟩, ⟨0xFE52, 0xFE52, 1⟩, ⟨0xFE55, 0xFE55, 1⟩,
        ⟨0xFF07, 0xFF07, 1⟩, ⟨0xFF0E, 0xFF0E, 1⟩, ⟨0xFF1A, 0xFF1A, 1⟩] c

/-- Characters with a case, apart from those that are case ignorable. The glottal letter `ʕ` has lost its
case with the recent characters. -/
def isCased (c : Char) : Bool :=
  (Category.casedLetters.any (·.contains c) && c != 'ʕ') || isEnclosedLetter c ||
    CharRange.anyContains CharRange.recentCased c ||
    CharRange.anyContains [⟨0xAA, 0xAA, 1⟩, ⟨0xBA, 0xBA, 1⟩, ⟨0x2160, 0x217F, 1⟩] c

/-! ## Trimming -/

/-- A text without the white space at its two ends. -/
def trim (text : Text) : Text :=
  ((text.dropWhile isBlank).reverse.dropWhile isBlank).reverse

/-- Whether a text is empty up to white space. -/
def isAllBlank (text : Text) : Bool :=
  text.all isBlank

end Text

end TextAnalysis
