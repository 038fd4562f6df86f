/-
# Levenshtein distance

The least number of characters to insert, delete and substitute that turns one text into another. The
table of the distances between beginnings of the two texts is computed row by row.
-/
import TextAnalysis.Text

namespace TextAnalysis.Levenshtein

/-- The rest of a row: `left` is the entry before it, and `above` the row above from the place of `left`
on. -/
def rowFrom (a : Char) (left : Nat) : List Nat → Text → List Nat
  | corner :: up :: above, b :: second =>
    let here := min (min (left + 1) (up + 1)) (corner + if a = b then 0 else 1)
    here :: rowFrom a here (up :: above) second
  | _, _ => []

/-- The row of one more character of the first text, below a given row. -/
def nextRow (second : Text) (above : List Nat) (a : Char) : List Nat :=
  let start := above.headD 0 + 1
  start :: rowFrom a start above second

/-- The last row of the table. -/
def lastRow (first second : Text) : List Nat :=
  first.foldl (nextRow second) (List.range (second.length + 1))

/-- The distance between two texts. -/
def distance (first second : Text) : Nat :=
  (lastRow first second).getLastD 0

end TextAnalysis.Levenshtein
