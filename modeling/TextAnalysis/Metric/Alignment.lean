/-
# Optimal string alignment

The edit distance that also counts a swap of two neighbouring characters as one edit and edits no
character twice. A row of the table needs the two rows above it.
-/
import TextAnalysis.Text

namespace TextAnalysis.Alignment

/-- The rest of a row. `a` is its character and `aBefore` the one before that; `left` is the entry
before the rest and `bBefore` the character of that entry; `above` is the row above from the place of
`left` on, and `corners` the row above that from two places before the next entry on. -/
def rowFrom (a : Char) (aBefore : Option Char) (left : Nat) (bBefore : Option Char) :
    List Nat → List Nat → Text → List Nat
  | corner :: up :: above, corners, b :: second =>
    let cost := if a = b then 0 else 1
    let edited := min (min (left + 1) (up + 1)) (corner + cost)
    let here :=
      match corners with
      | swapped :: _ =>
        if bBefore = some a ∧ aBefore = some b then min edited (swapped + cost) else edited
      | [] => edited
    let corners := if bBefore.isSome then corners.tail else corners
    here :: rowFrom a aBefore here (some b) (up :: above) corners second
  | _, _, _ => []

/-- The two last rows of a table and the last character of the first text. -/
structure Rows where
  last : List Nat
  beforeLast : List Nat
  character : Option Char

/-- One more character of the first text. -/
def nextRow (second : Text) (r : Rows) (a : Char) : Rows :=
  let start := r.last.headD 0 + 1
  { last := start :: rowFrom a r.character start none r.last r.beforeLast second
    beforeLast := r.last
    character := some a }

/-- The distance between two texts. -/
def distance (first second : Text) : Nat :=
  let rows := first.foldl (nextRow second) ⟨List.range (second.length + 1), [], none⟩
  rows.last.getLastD 0

end TextAnalysis.Alignment
