/-
# N-grams of a text

The pieces at the start of a text of every length in a range, as long as they are shorter than the
text, and one piece at each later position, as long as the range and the rest of the text allow.
-/
import TextAnalysis.Tokenizer.Gathering
import TextAnalysis.Tokenizer.LengthRange

namespace TextAnalysis.LengthRange

/-- The pieces at the start of a text. -/
def gramsAtStart (r : LengthRange) (text : Text) : List Piece :=
  (r.below text.length).map fun n => Piece.ofSlice text 0 n

/-- One piece at each later position at which the rest has the least length. -/
def gramsAfterStart (r : LengthRange) (text : Text) : List Piece :=
  (List.range' 1 (text.length - r.least)).map fun i =>
    Piece.ofSlice text i (min r.greatest (text.length - i))

/-- The n-grams of a text. -/
def grams (r : LengthRange) (text : Text) : Except Error (List Gram) :=
  Gram.gather (r.gramsAtStart text ++ r.gramsAfterStart text)

end TextAnalysis.LengthRange
