/-
# Vocabularies

A vocabulary lists the words of the numerals of a locale, each with its value and the operands through
which it combines with its neighbours.
-/
import TextAnalysis.Numeral
import TextAnalysis.Dictionary
import TextAnalysis.Tokenizer.Delimiters

namespace TextAnalysis

/-- A word with its value. -/
structure VocabularyEntry where
  word : Text
  value : Int
  kind : NumeralKind := .number
  association : Option Association := none
  left : Option Operand := none
  right : Option Operand := none
  deriving DecidableEq

/-- The delimiter between words where a vocabulary names none: everything but letters. -/
def Vocabulary.usualDelimiter : Text :=
  "[^\\p\x7bL\x7d]+".toList

/-- The words of a locale. The delimiter is the written form of a pattern for the text between words. -/
structure Vocabulary where
  code : Text
  name : Text
  aliases : List Text := []
  delimiter : Text := Vocabulary.usualDelimiter
  entries : List VocabularyEntry
  deriving DecidableEq

namespace VocabularyEntry

/-- The value of a word with its operands. -/
def numeral (e : VocabularyEntry) : Numeral :=
  { kind := e.kind, value := e.value, left := e.left, right := e.right }

/-! ## Checks -/

/-- Whether there is an operand on every side that the association names. -/
def hasNamedSides (e : VocabularyEntry) : Bool :=
  match e.association with
  | none => true
  | some a => (!a.allowsLeft || e.left.isSome) && (!a.allowsRight || e.right.isSome)

/-- Fails if the operand on a side accepts no value. -/
def checkOperand (e : VocabularyEntry) (side : Side) (o : Option Operand) :
    Except ConfigurationError Unit :=
  match o with
  | some o => if o.high < o.low then .error (.emptyOperandRange e.word side o.low o.high) else .ok ()
  | none => .ok ()

/-- Fails unless the word is not blank, operands accept some value, a modifier has exactly one operand,
and the association names sides with operands. -/
def check (e : VocabularyEntry) : Except ConfigurationError Unit := do
  if e.word.isAllBlank then .error .emptyWord
  e.checkOperand .left e.left
  e.checkOperand .right e.right
  if e.kind == .modifier && e.left.isSome == e.right.isSome then .error (.modifierOperands e.word)
  match e.association with
  | some a => if !e.hasNamedSides then .error (.missingSide e.word a)
  | none => pure ()

end VocabularyEntry

namespace Vocabulary

/-- Checks the entries in order; a word must not be there twice, up to case. `seen` are the words of the
entries before, in lower case. -/
def checkEntries (seen : List Text) : List VocabularyEntry → Except ConfigurationError Unit
  | [] => .ok ()
  | e :: rest => do
    e.check
    let word := e.word.lowercase
    if seen.contains word then .error (.duplicateWord e.word)
    checkEntries (word :: seen) rest

/-- Why a vocabulary is refused, if it is. -/
def checkContent [PatternEngine] (v : Vocabulary) : Except ConfigurationError Unit := do
  if v.code.isAllBlank then .error .emptyCode
  if v.entries.isEmpty then .error (.noEntries v.code)
  match PatternEngine.compile v.delimiter with
  | .error reason => .error (.badTokenizerDelimiter reason)
  | .ok _ => checkEntries [] v.entries

/-- Fails unless the vocabulary has a code, entries that are in order, and a pattern as delimiter. -/
def check [PatternEngine] (v : Vocabulary) : Except Error Unit :=
  v.checkContent.mapError .configuration

/-- A vocabulary that has been checked. -/
def checked [PatternEngine] (v : Vocabulary) : Except Error Vocabulary :=
  v.check.map fun _ => v

/-! ## Dictionaries -/

/-- The dictionary of the words, each under a key made from it. -/
def dictionaryBy (key : Text → Text) (v : Vocabulary) : Dictionary Numeral :=
  .ofList (v.entries.map fun e => ⟨key e.word, e.numeral, e.association⟩)

/-- The dictionary of the words as they are. -/
def dictionary (v : Vocabulary) : Dictionary Numeral :=
  v.dictionaryBy id

/-- The dictionary of the words in lower case. -/
def foldedDictionary (v : Vocabulary) : Dictionary Numeral :=
  v.dictionaryBy Text.lowercase

end Vocabulary

end TextAnalysis
