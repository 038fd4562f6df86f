/-
# Substrings of a text

All pieces of a text with a length in a range, shorter ones first, as long as they are shorter than the
text.
-/
import TextAnalysis.Tokenizer.Gathering
import TextAnalysis.Tokenizer.LengthRange

namespace TextAnalysis.LengthRange

/-- The pieces of a text with `n` characters. -/
def piecesOfLength (text : Text) (n : Nat) : List Piece :=
  (List.range (text.length - n + 1)).map fun i => Piece.ofSlice text i n

/-- The proper substrings of a text. -/
def substrings (r : LengthRange) (text : Text) : Except Error (List Fragment) :=
  Fragment.gather ((r.below text.length).flatMap (piecesOfLength text))

end TextAnalysis.LengthRange
