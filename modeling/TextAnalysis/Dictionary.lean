/-
# Dictionaries

A dictionary holds entries in the order in which their keys were first added. An entry with a key that
is already there takes the place of the old one.
-/
import TextAnalysis.Dictionary.Entry
import TextAnalysis.Dictionary.Matcher
import TextAnalysis.Dictionary.Matches

namespace TextAnalysis

/-- Entries in the order of their keys' first addition. -/
structure Dictionary (α : Type) where
  entries : List (Entry α) := []
  deriving DecidableEq

namespace Dictionary

variable {α : Type}

/-- The number of entries. -/
def size (d : Dictionary α) : Nat :=
  d.entries.length

/-- The entry with a key. -/
def lookup? (d : Dictionary α) (key : Text) : Option (Entry α) :=
  d.entries.find? (·.key == key)

/-- Whether there is an entry with a key. -/
def contains (d : Dictionary α) (key : Text) : Bool :=
  (d.lookup? key).isSome

/-- Puts an entry in the place of the one with its key, or at the end. -/
def putEntry (e : Entry α) : List (Entry α) → List (Entry α)
  | [] => [e]
  | old :: rest => if old.key = e.key then e :: rest else old :: putEntry e rest

/-- Adds an entry. -/
def add (d : Dictionary α) (e : Entry α) : Dictionary α :=
  ⟨putEntry e d.entries⟩

/-- Adds several entries, in order. -/
def extend (d : Dictionary α) (es : List (Entry α)) : Dictionary α :=
  es.foldl add d

/-- The dictionary of a list of entries, added in order. -/
def ofList (es : List (Entry α)) : Dictionary α :=
  extend {} es

/-- The match of an entry with a text, if there is one. -/
def matchEntry [PatternEngine] (m : Matcher) (text : Text) (e : Entry α) : Except Error (Option (Match α)) :=
  (m.score text e.key).map fun found => found.map fun score => ⟨e, text, score⟩

/-- The entries whose keys match a text, in order. The first failure of the matcher is the answer. -/
def matching [PatternEngine] (d : Dictionary α) (text : Text) (m : Matcher) : Except Error (Matches α) := do
  let found ← d.entries.mapM (matchEntry m text)
  return ⟨found.filterMap id, m.isGain⟩

end Dictionary

end TextAnalysis
