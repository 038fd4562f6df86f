/-
# Cutting into equal lengths
-/
import TextAnalysis.Tokenizer.Gathering

namespace TextAnalysis

/-- Cuts into pieces of one length, which is not zero. -/
structure FixedLength where
  length : Nat
  length_pos : 0 < length

namespace FixedLength

/-- Cuts into pieces of a length. -/
def make (length : Nat) : Except Error FixedLength :=
  if h : 0 < length then .ok ⟨length, h⟩ else .error (.argument .zeroLength)

/-- The pieces of a text. -/
def pieces (f : FixedLength) (text : Text) : List Piece :=
  (List.range (text.length / f.length)).map fun i => Piece.ofSlice text (i * f.length) f.length

/-- The fragments of a text, whose length must be a multiple of the length of a piece. -/
def tokenize (f : FixedLength) (text : Text) : Except Error (List Fragment) :=
  if text.length % f.length = 0 then Fragment.gather (f.pieces text)
  else .error (.argument (.indivisibleLength f.length))

end FixedLength

end TextAnalysis
