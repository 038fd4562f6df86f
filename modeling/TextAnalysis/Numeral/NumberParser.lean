/-
# Number parsers

A number parser reads a phrase such as "two hundred fifty thousand" as an integer: it cuts the phrase
into words at the delimiter of a vocabulary, translates the words and reduces them to one number. A
phrase without words, a word that is not in the vocabulary, or words that do not combine make the phrase
malformed.
-/
import TextAnalysis.TextParser
import TextAnalysis.Numeral.Reduction
import TextAnalysis.Numeral.Settings
import TextAnalysis.Numeral.Vocabulary

namespace TextAnalysis

/-- A parser of numerals for the locale of a vocabulary. -/
structure NumberParser where
  locale : Text
  settings : Settings
  parser : TextParser Fragment Int

namespace NumberParser

/-- A fragment as a word without a meaning, in lower case unless case matters. -/
def wordOf (caseSensitive : Bool) (t : Fragment) : Except Error Word :=
  let text := if caseSensitive then t.text else t.text.lowercase
  (Valued.raw text t.positions).map Revised.make

/-- The stage that translates words: by equality, or by the greatest similarity within a tolerance. -/
def resolvingStage [PatternEngine] (d : Dictionary Numeral) (tolerance : Option Binary64) :
    Except Error (Stage Phrase Phrase) :=
  match tolerance with
  | none => .ok (Stage.translate d Phrase.resolving)
  | some t =>
    (Matcher.ofMetric (.levenshtein .dissimilarity) t).map fun m =>
      Stage.translateWith d m Phrase.resolving

/-- The stages from fragments to a number. -/
def stages (caseSensitive : Bool) (translate : Stage Phrase Phrase) : Chain (Sequence Fragment) Int :=
  Chain.create (Stage.map (wordOf caseSensitive))
    |>.append translate
    |>.append (Stage.ensureAny (fun _ => true) .noWords)
    |>.append (Stage.ensureAll (·.current.isResolved) .untranslatedWord)
    |>.append Phrase.reduce
    |>.append Phrase.extract

/-- The delimiter of a vocabulary; a bad one is a fault of the configuration. -/
def delimiters [PatternEngine] (v : Vocabulary) : Except Error Delimiters :=
  (Delimiters.make v.delimiter).mapError fun e =>
    match e with
    | .argument e => .configuration (.argument e)
    | e => e

/-- A parser for a vocabulary. A phrase may be changed by `before`, and a number by `after`. -/
def build [PatternEngine] (v : Vocabulary) (s : Settings) (before : Option (Text → Text))
    (after : Option (Int → Int)) : Except Error NumberParser := do
  s.check
  let d ← delimiters v
  let words := if s.caseSensitive then v.dictionary else v.foldedDictionary
  let translate ← resolvingStage words s.tolerance
  let chain := (stages s.caseSensitive translate).run
  return { locale := v.code, settings := s, parser := { cut := d.tokenize, chain, before, after } }

/-- A parser with default settings. -/
def ofVocabulary [PatternEngine] (v : Vocabulary) : Except Error NumberParser :=
  build v {} none none

/-- Reads a phrase as a number. -/
def parse (p : NumberParser) (text : Text) : Except Error Int :=
  p.parser.parse text

end NumberParser

end TextAnalysis
