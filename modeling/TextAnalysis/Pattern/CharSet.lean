/-
# Sets of characters

The sets that a pattern names: single ranges, tables, general categories, their boolean combinations, and
the closure of a set under letter case.
-/
import TextAnalysis.Text.Category
import TextAnalysis.Text.LetterCase

namespace TextAnalysis

/-- A set of characters. -/
inductive CharSet where
  | none
  | all
  | range (first last : Char)
  | table (rs : List CharRange)
  | categories (ks : List Category)
  | complement (s : CharSet)
  | union (s t : CharSet)
  | inter (s t : CharSet)
  | caseClosed (s : CharSet)
  deriving DecidableEq, Repr

namespace CharSet

/-- Whether a character is in a set. A set closed under case has a character if it has one that is equal
up to case. -/
def contains : CharSet → Char → Bool
  | none, _ => false
  | all, _ => true
  | range first last, c => first ≤ c && c ≤ last
  | table rs, c => CharRange.anyContains rs c
  | categories ks, c => ks.any (·.contains c)
  | complement s, c => !s.contains c
  | union s t, c => s.contains c || t.contains c
  | inter s t, c => s.contains c && t.contains c
  | caseClosed s, c => s.contains c || (Text.caseVariants c).any s.contains

/-- The set of one character. -/
def single (c : Char) : CharSet :=
  range c c

/-- The set of the characters in several ranges. -/
def ofRanges (ranges : List (Char × Char)) : CharSet :=
  ranges.foldl (fun s r => s.union (range r.1 r.2)) none

/-- The characters that are in one of several sets. -/
def unionAll (sets : List CharSet) : CharSet :=
  sets.foldl union none

/-- The characters of the first set that are not in the second. -/
def difference (s t : CharSet) : CharSet :=
  s.inter t.complement

/-- The characters of exactly one of two sets. -/
def symmetricDifference (s t : CharSet) : CharSet :=
  (s.difference t).union (t.difference s)

/-- The decimal digits of all scripts. -/
def decimal : CharSet :=
  categories [.decimalNumber]

/-- White space. -/
def blank : CharSet :=
  table CharRange.whiteSpace

/-- Letters, letter numbers and what is used like letters. -/
def alphabetic : CharSet :=
  (categories (Category.letterNumber :: Category.letters)).union (table CharRange.otherAlphabetic)

/-- Characters of words: letters, marks, decimal digits, letter numbers, connectors, the letters in circles
and squares and the two joiners. -/
def word : CharSet :=
  (categories (Category.letters ++ Category.marks ++
    [.decimalNumber, .letterNumber, .connectorPunctuation])).union
    (table (CharRange.joiners ++ CharRange.enclosedLetters))

/-- The ASCII characters. -/
def ascii : CharSet :=
  range '\x00' '\x7f'

/-- A set with the other case of its ASCII letters. -/
def asciiClosed (s : CharSet) : CharSet :=
  s.union ((s.inter ascii).caseClosed.inter ascii)

/-! ## ASCII classes -/

/-- The ASCII classes of bracket notation. -/
def asciiClasses : List (String × List (Char × Char)) :=
  [("alnum", [('0', '9'), ('A', 'Z'), ('a', 'z')]),
   ("alpha", [('A', 'Z'), ('a', 'z')]),
   ("ascii", [('\x00', '\x7f')]),
   ("blank", [('\t', '\t'), (' ', ' ')]),
   ("cntrl", [('\x00', '\x1f'), ('\x7f', '\x7f')]),
   ("digit", [('0', '9')]),
   ("graph", [('!', '~')]),
   ("lower", [('a', 'z')]),
   ("print", [(' ', '~')]),
   ("punct", [('!', '/'), (':', '@'), ('[', '\x60'), ('\x7b', '~')]),
   ("space", [('\t', '\r'), (' ', ' ')]),
   ("upper", [('A', 'Z')]),
   ("word", [('0', '9'), ('A', 'Z'), ('_', '_'), ('a', 'z')]),
   ("xdigit", [('0', '9'), ('A', 'F'), ('a', 'f')])]

/-- The ASCII class with a name. -/
def asciiClass? (name : Text) : Option CharSet :=
  (asciiClasses.find? (·.1.toList == name)).map fun found => ofRanges found.2

/-! ## Tables -/

/-- The sets of characters that the notation of patterns refers to without listing them: digits, white space and
characters of words, the closure of a set under letter case, properties by their names, and what the names of
groups are made of. What is said about the notation holds for any tables. -/
class Tables where
  decimal : CharSet
  blank : CharSet
  word : CharSet
  caseClosed : CharSet → CharSet
  property? : Text → Option CharSet
  startsName : Char → Bool
  continuesName : Char → Bool

end CharSet

end TextAnalysis
