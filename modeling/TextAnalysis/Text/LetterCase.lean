/-
# Letter case

The lower and the upper case of texts, and the characters that are equal up to case. A capital sigma
at the end of a word becomes a final sigma; this is the one place where the case of a character depends
on its neighbours.
-/
import TextAnalysis.Text
import TextAnalysis.Text.Category
import TextAnalysis.Text.CaseTable

namespace TextAnalysis.Text

/-- The lower case of one character on its own. Only the dotted capital I has two characters. -/
def lowerChar (c : Char) : Text :=
  if c = 'İ' then ['i', '\u0307'] else [CaseShift.move CaseShift.toLower c]

/-- The upper case of one character. -/
def upperChar (c : Char) : Text :=
  match CaseShift.longUpper.find? (·.1 == c.toNat) with
  | some (_, codes) => codes.map Char.ofNat
  | none => [CaseShift.move CaseShift.toUpper c]

/-- Whether the first character that is not case ignorable has a case. -/
def meetsCased (text : Text) : Bool :=
  ((text.dropWhile isCaseIgnorable).head?.map isCased).getD false

/-- The lower case of the rest of a text, of which `before` are the characters already passed, the
nearest first. A capital sigma is final if a cased character comes before it and none after it. -/
def lowercaseFrom (before : Text) : Text → Text
  | [] => []
  | c :: rest =>
    (if c = 'Σ' then [if meetsCased before && !meetsCased rest then 'ς' else 'σ'] else lowerChar c)
      ++ lowercaseFrom (c :: before) rest

/-- The lower case of a text. -/
def lowercase (text : Text) : Text :=
  lowercaseFrom [] text

/-- The upper case of a text. -/
def uppercase (text : Text) : Text :=
  text.flatMap upperChar

/-- The character that stands for all characters equal to `c` up to case. -/
def foldChar (c : Char) : Char :=
  CaseShift.move CaseShift.toFolded c

/-- All characters equal to `c` up to case. -/
def caseVariants (c : Char) : List Char :=
  foldChar c :: CaseShift.sources CaseShift.toFolded (foldChar c)

end TextAnalysis.Text
