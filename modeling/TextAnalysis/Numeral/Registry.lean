/-
# Registries

A registry holds vocabularies with their parsers under locale codes and other names. Names are looked up
in any case, and of several vocabularies with the same name the one registered last is found.
-/
import TextAnalysis.Numeral.NumberParser
import TextAnalysis.Numeral.English

namespace TextAnalysis

/-- A vocabulary with the parser built from it. -/
structure Registered where
  vocabulary : Vocabulary
  parser : NumberParser

/-- The registered vocabularies with different codes in the order of their registration, and all under
their names in lower case, those registered last first. -/
structure Registry where
  locales : List Registered := []
  index : List (Text × Registered) := []

namespace Registry

/-- The names of a vocabulary as they are looked up. -/
def namesOf (v : Vocabulary) : List Text :=
  (v.code :: v.aliases).map Text.lowercase

/-- Adds a registered vocabulary. It takes the place of those with the same code, up to the case of ASCII
letters, in the list of locales. -/
def insert (r : Registry) (e : Registered) : Registry :=
  { locales :=
      r.locales.filter (fun old => !old.vocabulary.code.eqIgnoringAsciiCase e.vocabulary.code) ++ [e]
    index := (namesOf e.vocabulary).map (fun name => (name, e)) ++ r.index }

/-- Registers a vocabulary; its parser must be possible. -/
def register [PatternEngine] (r : Registry) (v : Vocabulary) : Except Error (NumberParser × Registry) := do
  let parser ← NumberParser.ofVocabulary v
  return (parser, r.insert ⟨v, parser⟩)

/-- What is registered under a name. -/
def find? (r : Registry) (locale : Text) : Option Registered :=
  (r.index.find? (·.1 == locale.lowercase)).map (·.2)

/-- What is registered under a name, which must be known. -/
def lookup (r : Registry) (locale : Text) : Except Error Registered :=
  match r.find? locale with
  | some e => .ok e
  | none => .error (.unsupportedLocale locale)

/-- The parser registered under a name. -/
def get (r : Registry) (locale : Text) : Except Error NumberParser :=
  (r.lookup locale).map (·.parser)

/-- The vocabulary registered under a name. -/
def vocabulary (r : Registry) (locale : Text) : Except Error Vocabulary :=
  (r.lookup locale).map (·.vocabulary)

/-- Whether something is registered under a name. -/
def contains (r : Registry) (locale : Text) : Bool :=
  (r.find? locale).isSome

/-- A new parser for the locale of the settings, with these settings. -/
def build [PatternEngine] (r : Registry) (s : Settings) : Except Error NumberParser := do
  NumberParser.build (← r.vocabulary s.locale) s none none

/-- Whether a text is not after another one in the order of code points. -/
def notAfter (a b : Text) : Bool :=
  !b.precedes a

/-- The codes of the registered vocabularies, sorted. -/
def codes (r : Registry) : List Text :=
  (r.locales.map (·.vocabulary.code)).mergeSort notAfter

/-- The registry of the vocabularies that come with the library. -/
def standard [PatternEngine] : Except Error Registry :=
  (register {} English.vocabulary).map (·.2)

/-- Reads a phrase in a locale of the standard registry. -/
def parseIn [PatternEngine] (locale text : Text) : Except Error Int := do
  (← (← standard).get locale).parse text

end Registry

end TextAnalysis
