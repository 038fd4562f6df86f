/-
# Sequences

A sequence is a list of tokens joined by a delimiter. It is a token itself, so sequences nest. It counts
the edits of its structure, and it has a number that tells it from other sequences of a workspace.
-/
import TextAnalysis.Token

namespace TextAnalysis

/-- A list of tokens with a delimiter and positions of its own. `edits` counts the changes of its
structure, and `number` says which sequence of a workspace it is; a sequence outside of one has the
number zero. -/
structure Sequence (α : Type) where
  tokens : List α
  delimiter : Text := []
  positions : Positions := .empty
  edits : Nat := 0
  number : Nat := 0
  deriving DecidableEq

namespace Sequence

variable {α β : Type}

/-- The sequence of a list of tokens, joined without a delimiter. -/
def ofList (tokens : List α) : Sequence α :=
  { tokens }

/-- The number of tokens. -/
def size (s : Sequence α) : Nat :=
  s.tokens.length

/-- Adds a position of the sequence as a whole. -/
def addPosition (s : Sequence α) (position : Nat) : Sequence α :=
  { s with positions := s.positions.insert position }

/-- Whether two sequences agree in tokens, delimiter and positions, whatever their histories. -/
def sameContent [DecidableEq α] (s t : Sequence α) : Bool :=
  s.tokens = t.tokens && s.positions = t.positions && s.delimiter = t.delimiter

/-- The texts of the tokens with the delimiter between them. -/
def text [Token α] (s : Sequence α) : Text :=
  s.delimiter.intercalate (s.tokens.map Token.text)

/-- The lengths of the tokens together; delimiters do not count. -/
def length [Token α] (s : Sequence α) : Nat :=
  (s.tokens.map Token.length).foldr (· + ·) 0

instance [Token α] : Token (Sequence α) where
  text := text
  positions := positions
  addPosition := addPosition
  length := length
  isEmpty s := s.tokens.isEmpty

/-! ## New sequences from old ones -/

/-- Puts a token at each of its positions. -/
def place [Token α] (placed : Numbered α) (t : α) : Numbered α :=
  (Token.positions t).toList.foldl (fun placed p => placed.put p t) placed

/-- The sequence of tokens in the order of their positions: a token stands there once for each of its
positions, and of two tokens with the same position the later one has it. -/
def sorted [Token α] (tokens : List α) : Sequence α :=
  ofList (tokens.foldl place .empty).values

/-- Maps the tokens; delimiter and positions stay, and the edits are counted anew. -/
def map (f : α → β) (s : Sequence α) : Sequence β :=
  { tokens := s.tokens.map f, delimiter := s.delimiter, positions := s.positions }

/-- Maps the tokens by a function that may fail; the first failure is the answer. -/
def tryMap {ε : Type} (f : α → Except ε β) (s : Sequence α) : Except ε (Sequence β) := do
  let tokens ← s.tokens.mapM f
  return { tokens, delimiter := s.delimiter, positions := s.positions }

end Sequence

end TextAnalysis
