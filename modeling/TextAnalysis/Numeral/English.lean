/-
# English numerals

The vocabulary of English numerals below one million million. Units and teens combine only through the
operands of their neighbours; the tens take up a unit, and the powers of ten take up what stands before
and after them.
-/
import TextAnalysis.Numeral.Vocabulary

namespace TextAnalysis.English

/-- A number that takes up nothing. -/
def plain (word : String) (value : Int) : VocabularyEntry :=
  { word := word.toList, value }

/-- A multiple of ten, which takes up a unit after it. -/
def tens (word : String) (value : Int) : VocabularyEntry :=
  { word := word.toList, value, association := some .right, right := some ⟨.add, 1, 9⟩ }

/-- The ending of the teens, which is added to a unit before it. -/
def teen : VocabularyEntry :=
  { word := "teen".toList, value := 10, kind := .modifier, association := some .left
    left := some ⟨.add, 3, 9⟩ }

/-- A power of ten, by which a number before it is multiplied and to which a number after it is added. -/
def power (word : String) (value factor addend : Int) : VocabularyEntry :=
  { word := word.toList, value, association := some .bidirectional
    left := some ⟨.multiply, 1, factor⟩, right := some ⟨.add, 1, addend⟩ }

/-- The words for zero, and the numbers below twenty. -/
def small : List VocabularyEntry :=
  [plain "zero" 0, plain "null" 0, plain "nil" 0, plain "one" 1, plain "two" 2, plain "three" 3,
   plain "four" 4, plain "five" 5, plain "six" 6, plain "seven" 7, plain "eight" 8, plain "nine" 9,
   plain "ten" 10, plain "eleven" 11, plain "twelve" 12, plain "thirteen" 13, plain "fourteen" 14,
   plain "fifteen" 15, plain "sixteen" 16, plain "seventeen" 17, plain "eighteen" 18,
   plain "nineteen" 19]

/-- The multiples of ten below a hundred. -/
def multiplesOfTen : List VocabularyEntry :=
  [tens "twenty" 20, tens "thirty" 30, tens "forty" 40, tens "fourty" 40, tens "fifty" 50,
   tens "sixty" 60, tens "seventy" 70, tens "eighty" 80, tens "ninety" 90]

/-- The powers of ten. -/
def powers : List VocabularyEntry :=
  [power "hundred" 100 9 99, power "thousand" 1000 999 999,
   power "million" 1000000 999999 999999]

/-- The English vocabulary. -/
def vocabulary : Vocabulary :=
  { code := "en".toList
    name := "English".toList
    aliases := ["english".toList, "en-us".toList, "en-gb".toList]
    entries := small ++ teen :: multiplesOfTen ++ powers }

end TextAnalysis.English
