/-
# Vocabulary files

Vocabularies in TOML: the tables "metadata" and "tokenizer" and the array "entries".
-/
import TextAnalysis.Numeral.Vocabulary
import TextAnalysis.Toml.Record

namespace TextAnalysis

open Toml (field field?)

/-- The operations by name. -/
def Operation.named : List (String × Operation) :=
  [("add", add), ("multiply", multiply)]

/-- The kinds of numerals by name. -/
def NumeralKind.named : List (String × NumeralKind) :=
  [("number", number), ("modifier", modifier)]

/-- The associations by name. -/
def Association.named : List (String × Association) :=
  [("left", left), ("right", right), ("bidirectional", bidirectional)]

/-- The operand that a record describes. -/
def Operand.ofRecord (v : Toml.Value) : Except Toml.Error Operand := do
  let fields ← (v.record? ["operation", "min", "max"]).elim (.error .badTable) .ok
  let operation ← field "operation" (Toml.Value.named? Operation.named) fields
  let low ← field "min" Toml.Value.integer? fields
  let high ← field "max" Toml.Value.integer? fields
  return { operation, low, high }

/-- The operand under a name, if there is one. -/
def Operand.ofField? (name : String) (fields : Toml.Entries) :
    Except Toml.Error (Option Operand) := do
  match ← field? name some fields with
  | none => return none
  | some v => return some (← Operand.ofRecord v)

/-- The entry of a vocabulary that a record describes. -/
def VocabularyEntry.ofRecord (v : Toml.Value) : Except Toml.Error VocabularyEntry := do
  let names := ["word", "value", "kind", "association", "left", "right"]
  let fields ← (v.record? names).elim (.error .badTable) .ok
  let word ← field "word" Toml.Value.text? fields
  let value ← field "value" Toml.Value.integer? fields
  let kind ← field? "kind" (Toml.Value.named? NumeralKind.named) fields
  let association ← field? "association" (Toml.Value.named? Association.named) fields
  let left ← Operand.ofField? "left" fields
  let right ← Operand.ofField? "right" fields
  return { word, value, kind := kind.getD .number, association, left, right }

namespace Vocabulary

/-- The vocabulary that a document describes, without checks of its content. -/
def ofEntries (document : Toml.Entries) : Except Toml.Error Vocabulary := do
  let metadata ← field "metadata" (Toml.Value.record? ["code", "name", "aliases"]) document
  let code ← field "code" Toml.Value.text? metadata
  let name ← field "name" Toml.Value.text? metadata
  let aliases ← field? "aliases" Toml.Value.texts? metadata
  let tokenizer ← Toml.subrecord "tokenizer" ["delimiter"] document
  let delimiter ← field? "delimiter" Toml.Value.text? tokenizer
  let entries ← (← field "entries" Toml.Value.items? document).mapM VocabularyEntry.ofRecord
  return { code, name, aliases := aliases.getD [], delimiter := delimiter.getD usualDelimiter, entries }

/-- The vocabulary that a text in TOML describes. -/
def read [PatternEngine] [Toml.Reader] (text : Text) : Except Error Vocabulary :=
  match Toml.Reader.read text >>= ofEntries with
  | .ok v => v.checked
  | .error e => .error (.configuration (.notVocabulary e))

/-- The vocabulary in a file, given its path and what reading it yields. -/
def ofFile [PatternEngine] [Toml.Reader] (path : Text) (content : Except ReadFailure Text) :
    Except Error Vocabulary :=
  match content with
  | .ok text => read text
  | .error failure => .error (.configuration (.unreadable path failure))

end Vocabulary

end TextAnalysis
