/-
# Errors

Why an operation fails. An error names its cause; the wording is in the functions `message`.
-/
import TextAnalysis.Text.Quoted
import TextAnalysis.Association
import TextAnalysis.Binary64.Shortest
import TextAnalysis.Numeral.Operation
import TextAnalysis.Toml.Value

namespace TextAnalysis

open Text

/-! ## Cursors -/

/-- How a cursor over a sequence is misused. -/
inductive CursorError where
  | indexOutOfBounds (index size : Nat)
  | noSuchElement
  | nothingVisited
  | mergeWithItself (index : Nat)
  | concurrentModification (expected actual : Nat)
  | foreignSequence
  deriving DecidableEq, Repr

/-- The wording of a misuse. -/
def CursorError.message : CursorError → Text
  | indexOutOfBounds index size =>
    "Index ".toList ++ ofNat index ++ " out of bounds for sequence of size ".toList ++ ofNat size
  | noSuchElement => "No such element".toList
  | nothingVisited => "Illegal state: next() or previous() not called".toList
  | mergeWithItself index =>
    "Illegal argument: cannot merge token ".toList ++ ofNat index ++ " with itself".toList
  | concurrentModification expected actual =>
    "Concurrent modification: expected modification count ".toList ++ ofNat expected ++
      ", found ".toList ++ ofNat actual
  | foreignSequence => "Cursor used with a sequence it was not created for".toList

/-! ## Arguments -/

/-- How an argument lies outside the domain of an operation. -/
inductive ArgumentError where
  | emptyToken
  | zeroDegree
  | zeroMinimumLength
  | maximumBelowMinimum (minimum : Nat)
  | zeroLength
  | indivisibleLength (length : Nat)
  | unequalLengths (first second : Nat)
  | emptyDelimiterPattern
  | badDelimiterPattern (reason : Text)
  | emptyDelimiter
  | noDelimiters
  | badKeyPattern (key reason : Text)
  | thresholdOutside (threshold low high : Binary64)
  deriving DecidableEq, Repr

/-- The reason why a pattern is refused, after a description of where the pattern came from. -/
def refusal (description reason : Text) : Text :=
  description ++ ": ".toList ++ reason

/-- The wording of a bad argument. -/
def ArgumentError.message : ArgumentError → Text
  | emptyToken => "token text may not be empty".toList
  | zeroDegree => "the degree of an n-gram must be at least 1".toList
  | zeroMinimumLength => "the minimum length must be at least 1".toList
  | maximumBelowMinimum minimum =>
    "the maximum length must be at least the minimum length ".toList ++ ofNat minimum
  | zeroLength => "the length must be at least 1".toList
  | indivisibleLength length =>
    "the length of the text must be divisible by ".toList ++ ofNat length
  | unequalLengths first second =>
    "the texts must have the same length, got ".toList ++ ofNat first ++ " and ".toList ++
      ofNat second
  | emptyDelimiterPattern => "the delimiter pattern may not be empty".toList
  | badDelimiterPattern reason => refusal "invalid delimiter pattern".toList reason
  | emptyDelimiter => "delimiters may not be empty".toList
  | noDelimiters => "at least one delimiter must be given".toList
  | badKeyPattern key reason => refusal ("invalid key pattern ".toList ++ quote key) reason
  | thresholdOutside threshold low high =>
    "threshold ".toList ++ threshold.toText ++ " outside [".toList ++ low.toText ++ ", ".toList ++
      high.toText ++ "]".toList

/-! ## Texts -/

/-- Why a text is malformed. -/
inductive Malformation where
  | stated (reason : Text)
  | noWords
  | untranslatedWord
  | modifierWithoutNeighbour
  | modifierWithoutOperand
  | operandRejects (first : Int) (operation : Operation) (second low high : Int)
  | overflow (first : Int) (operation : Operation) (second : Int)
  | noFixedPoint
  | missingToken
  | operandVanished
  | noNumeral
  | numbersRemain (count : Nat)
  | modifierWithoutNumber
  | operandPending
  deriving DecidableEq, Repr

/-- The wording of a reason. -/
def Malformation.message : Malformation → Text
  | stated reason => reason
  | noWords => "no words".toList
  | untranslatedWord => "untranslated word".toList
  | modifierWithoutNeighbour => "modifier without a number to act on".toList
  | modifierWithoutOperand => "modifier without an operand".toList
  | operandRejects first operation second low high =>
    ofInt first ++ " cannot ".toList ++ operation.name ++ " ".toList ++ ofInt second ++
      ", expected a value in ".toList ++ ofInt low ++ "..=".toList ++ ofInt high
  | overflow first operation second =>
    ofInt first ++ " ".toList ++ operation.name ++ " ".toList ++ ofInt second ++
      " overflows".toList
  | noFixedPoint => "reduction did not reach a fixed point".toList
  | missingToken => "missing token".toList
  | operandVanished => "operand vanished during reduction".toList
  | noNumeral => "no numeral found".toList
  | numbersRemain count => ofNat count ++ " numbers remain that cannot be combined".toList
  | modifierWithoutNumber => "modifier without a number".toList
  | operandPending => "operand left pending".toList

/-! ## Configuration -/

/-- The side of an entry on which an operand stands. -/
inductive Side where
  | left
  | right
  deriving DecidableEq, Repr

/-- The name of a side. -/
def Side.name : Side → Text
  | left => "left".toList
  | right => "right".toList

/-- The capitalised name of an association. -/
def Association.title : Association → Text
  | left => "Left".toList
  | right => "Right".toList
  | bidirectional => "Bidirectional".toList

/-- Why a file cannot be read as text. -/
inductive ReadFailure where
  | missing
  | notUnicode
  | isDirectory
  | denied
  deriving DecidableEq, Repr

/-- The wording of a read failure. -/
def ReadFailure.message : ReadFailure → Text
  | missing => "No such file or directory (os error 2)".toList
  | notUnicode => "stream did not contain valid UTF-8".toList
  | isDirectory => "Is a directory (os error 21)".toList
  | denied => "Permission denied (os error 13)".toList

/-- Why a configuration or a vocabulary is refused. -/
inductive ConfigurationError where
  | emptyLocale
  | thresholdOutsideUnit (threshold : Binary64)
  | unreadable (path : Text) (failure : ReadFailure)
  | notVocabulary (e : Toml.Error)
  | emptyCode
  | noEntries (code : Text)
  | badTokenizerDelimiter (reason : Text)
  | emptyWord
  | emptyOperandRange (word : Text) (side : Side) (low high : Int)
  | modifierOperands (word : Text)
  | missingSide (word : Text) (association : Association)
  | duplicateWord (word : Text)
  | argument (e : ArgumentError)
  deriving DecidableEq, Repr

/-- A bad argument with its kind in front. -/
def ArgumentError.titled (e : ArgumentError) : Text :=
  "Invalid argument: ".toList ++ e.message

/-- The wording of a refused configuration. -/
def ConfigurationError.message : ConfigurationError → Text
  | emptyLocale => "locale may not be empty".toList
  | thresholdOutsideUnit threshold =>
    "fuzzy_threshold must lie in [0, 1], got ".toList ++ threshold.toText
  | unreadable path failure =>
    "Failed to read ".toList ++ path ++ ": ".toList ++ failure.message
  | notVocabulary e =>
    "Failed to parse vocabulary: TOML parse error: ".toList ++ e.message
  | emptyCode => "locale code may not be empty".toList
  | noEntries code => "vocabulary ".toList ++ code ++ " has no entries".toList
  | badTokenizerDelimiter reason => refusal "invalid tokenizer delimiter".toList reason
  | emptyWord => "entry with an empty word".toList
  | emptyOperandRange word side low high =>
    "entry ".toList ++ quote word ++ ": ".toList ++ side.name ++ " operand range ".toList ++
      ofInt low ++ "..=".toList ++ ofInt high ++ " is empty".toList
  | modifierOperands word =>
    "entry ".toList ++ quote word ++ ": a modifier needs exactly one operand".toList
  | missingSide word association =>
    "entry ".toList ++ quote word ++ ": association Some(".toList ++ association.title ++
      ") names a side without an operand".toList
  | duplicateWord word => "duplicate word ".toList ++ quote word
  | argument e => e.titled

/-! ## All errors -/

/-- Why an operation fails. -/
inductive Error where
  | malformed (text : Text) (reason : Malformation)
  | unsupportedLocale (locale : Text)
  | argument (e : ArgumentError)
  | configuration (e : ConfigurationError)
  | cursor (e : CursorError)
  deriving DecidableEq, Repr

namespace Error

/-- The wording of an error, with its kind in front. -/
def message : Error → Text
  | malformed text reason =>
    "Malformed text \"".toList ++ text ++ "\": ".toList ++ reason.message
  | unsupportedLocale locale => "Unsupported locale: ".toList ++ locale
  | argument e => e.titled
  | configuration e => "Configuration error: ".toList ++ e.message
  | cursor e => "Cursor error: ".toList ++ e.message

/-- Whether a text is at fault. -/
def isMalformed : Error → Bool
  | malformed _ _ => true
  | _ => false

/-- The same reason, said of another text. Errors that are not about a text stay as they are. -/
def aboutText (text : Text) : Error → Error
  | malformed _ reason => malformed text reason
  | e => e

end Error

instance : Coe ArgumentError Error := ⟨.argument⟩

instance : Coe ConfigurationError Error := ⟨.configuration⟩

instance : Coe CursorError Error := ⟨.cursor⟩

end TextAnalysis
