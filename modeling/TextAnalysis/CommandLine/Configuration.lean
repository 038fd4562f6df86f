/-
# Configuration

The defaults of a user, in a TOML file with the tables "parsing" and "output".
-/
import TextAnalysis.Error
import TextAnalysis.Toml.Record

namespace TextAnalysis.CommandLine

open Toml (field? subrecord)

/-- The defaults for commands. -/
structure Configuration where
  locale : Text := "en".toList
  caseSensitive : Bool := false
  tolerance : Option Binary64 := none
  vocabularies : List Text := []
  format : Text := "text".toList
  prettyJson : Bool := true
  deriving DecidableEq

namespace Configuration

/-- The configuration that a document describes; what it does not say stays as it is without one. -/
def ofEntries (document : Toml.Entries) : Except Toml.Error Configuration := do
  let usual : Configuration := {}
  let parsing ← subrecord "parsing"
    ["default_locale", "case_sensitive", "fuzzy_threshold", "vocabularies"] document
  let locale ← field? "default_locale" Toml.Value.text? parsing
  let caseSensitive ← field? "case_sensitive" Toml.Value.boolean? parsing
  let tolerance ← field? "fuzzy_threshold" Toml.Value.number? parsing
  let vocabularies ← field? "vocabularies" Toml.Value.texts? parsing
  let output ← subrecord "output" ["default_format", "pretty_json"] document
  let format ← field? "default_format" Toml.Value.text? output
  let prettyJson ← field? "pretty_json" Toml.Value.boolean? output
  return {
    locale := locale.getD usual.locale
    caseSensitive := caseSensitive.getD usual.caseSensitive
    tolerance
    vocabularies := vocabularies.getD usual.vocabularies
    format := format.getD usual.format
    prettyJson := prettyJson.getD usual.prettyJson }

/-- The configuration that a text in TOML describes. -/
def read [Toml.Reader] (text : Text) : Except Toml.Error Configuration :=
  Toml.Reader.read text >>= ofEntries

end Configuration

end TextAnalysis.CommandLine
