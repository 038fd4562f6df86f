/-
# Cutting around keys

A key tokenizer looks for the keys of a dictionary in a text. The occurrence that starts first becomes a
fragment, the text before it another one, and the search goes on after it. With a tolerance, an
occurrence of a key is the piece of the rest that a measure finds closest to the key, as long as its
value is as good as a threshold; without such a piece only exact occurrences count.
-/
import TextAnalysis.Dictionary
import TextAnalysis.Tokenizer.Substrings

namespace TextAnalysis

/-- A measure and the threshold for its values. -/
structure Tolerance where
  measure : Measure
  threshold : Binary64

/-- The keys to look for, none of them empty. -/
structure KeyTokenizer where
  keys : List Text
  tolerance : Option Tolerance := none
  nonempty : ∀ key ∈ keys, key ≠ []

/-- A piece of a text: where it starts, its length, and its score for a key. -/
structure Span where
  start : Nat
  length : Nat
  score : Binary64
  deriving DecidableEq, Repr

namespace KeyTokenizer

/-! ## Making -/

/-- Looks for exact occurrences of the keys that are not empty. -/
def ofDictionary {α : Type} (d : Dictionary α) : KeyTokenizer :=
  { keys := (d.entries.map (·.key)).filter (! ·.isEmpty)
    nonempty := by simp }

/-- Looks for pieces close to the keys. The threshold must lie in the range of the measure. -/
def ofDictionaryWith {α : Type} (d : Dictionary α) (m : Measure) (threshold : Binary64) :
    Except Error KeyTokenizer := do
  m.checkThreshold threshold
  return { ofDictionary d with tolerance := some ⟨m, threshold⟩ }

/-! ## Finding -/

/-- The position of the first occurrence of a key, the first character of the text having the position
`start`. -/
def findExact (key : Text) (start : Nat) : Text → Option Span
  | [] => if key.isEmpty then some ⟨start, 0, .one⟩ else none
  | c :: rest =>
    if Text.startsWith (c :: rest) key then some ⟨start, key.length, .one⟩
    else findExact key (start + 1) rest

/-- The better of the best span so far and a candidate that the measure may not accept. -/
def improve (t : Tolerance) (key : Text) (best : Option Span) (candidate : Fragment) :
    Except Error (Option Span) := do
  let score ← t.measure.value key candidate.text
  let better :=
    match best with
    | some b => t.measure.isBetter score b.score
    | none => true
  if t.measure.accepts t.threshold score && better then
    return some ⟨candidate.positions.toList.headD 0, candidate.text.length, score⟩
  else return best

/-- The proper piece of a text that is closest to a key, the first of several. -/
def findClosest (t : Tolerance) (key text : Text) : Except Error (Option Span) := do
  let candidates ← LengthRange.unbounded.substrings text
  candidates.foldlM (improve t key) none

/-- The occurrence of a key in a text. -/
def find (k : KeyTokenizer) (key text : Text) : Except Error (Option Span) :=
  match k.tolerance with
  | some t => (findClosest t key text).map fun found => found.or (findExact key 0 text)
  | none => .ok (findExact key 0 text)

/-- The earlier of two occurrences, the first one if they start together. -/
def earlier : Option Span → Option Span → Option Span
  | some a, some b => if b.start < a.start then some b else some a
  | none, b => b
  | a, none => a

/-- The occurrence of a key that starts first. -/
def closest (k : KeyTokenizer) (text : Text) : Except Error (Option Span) :=
  k.keys.foldlM (fun best key => (k.find key text).map (earlier best)) none

/-! ## Cutting -/

/-- The pieces of the rest of a text, of which the first character has the position `offset`, cut at no
more than `steps` occurrences. -/
def cut (k : KeyTokenizer) : Nat → Nat → Text → Except Error (List Piece)
  | 0, _, _ => .ok []
  | steps + 1, offset, rest =>
    if rest.isEmpty then .ok []
    else do
      match ← k.closest rest with
      | none => return [⟨rest, offset⟩]
      | some found =>
        let before := rest.take found.start
        let here := (rest.drop found.start).take found.length
        let finish := found.start + found.length
        let later ← k.cut steps (offset + finish) (rest.drop finish)
        let first := if before.isEmpty then [] else [⟨before, offset⟩]
        return first ++ ⟨here, offset + found.start⟩ :: later

/-- The fragments of a text; every occurrence takes at least one character. -/
def tokenize (k : KeyTokenizer) (text : Text) : Except Error (List Fragment) := do
  Fragment.gather (← k.cut text.length 0 text)

end KeyTokenizer

end TextAnalysis
