/-
# Damerau-Levenshtein distance

The least number of insertions, deletions, substitutions and swaps of neighbouring characters that turns
one text into another, without a restriction on what is edited again. A swap of characters that are
apart costs the characters between them, so an entry looks back to the row and the column in which its
two characters were met last.
-/
import TextAnalysis.Text

namespace TextAnalysis.Damerau

/-- An entry of the rows computed so far, by row and column. -/
def entry (rows : List (List Nat)) (i j : Nat) : Nat :=
  (rows.getD i []).getD j 0

/-- The last row, counted from one, with a given character, and zero if there is none. `seen` has the
characters of the rows computed so far, the last one first. -/
def lastRowOf (seen : Text) (b : Char) : Nat :=
  match seen.findIdx? (· == b) with
  | some k => seen.length - k
  | none => 0

/-- The rest of row `i` with the character `a`, from column `j` on. `left` is the entry before it, and
`matched` the last column in which the character was `a`, zero if there is none; `above` is the row
above from the column before `j` on. -/
def rowFrom (rows : List (List Nat)) (seen : Text) (i : Nat) (a : Char) (j left matched : Nat) :
    List Nat → Text → List Nat
  | corner :: up :: above, b :: second =>
    let i₁ := lastRowOf seen b
    let j₁ := matched
    let edited := min (min (left + 1) (up + 1)) (corner + if a = b then 0 else 1)
    let here :=
      if 0 < i₁ ∧ 0 < j₁ then
        min edited (entry rows (i₁ - 1) (j₁ - 1) + (i - i₁ - 1) + (j - j₁ - 1) + 1)
      else edited
    here :: rowFrom rows seen i a (j + 1) here (if a = b then j else matched) (up :: above) second
  | _, _ => []

/-- The rows computed so far, from the first on, and the characters of all but the first, the last one
first. -/
structure Table where
  rows : List (List Nat)
  seen : Text

/-- One more row. -/
def Table.extend (second : Text) (t : Table) (a : Char) : Table :=
  let i := t.rows.length
  let above := t.rows.getLastD []
  { rows := t.rows ++ [i :: rowFrom t.rows t.seen i a 1 i 0 above second]
    seen := a :: t.seen }

/-- The table of two texts. -/
def table (first second : Text) : Table :=
  first.foldl (Table.extend second) ⟨[List.range (second.length + 1)], []⟩

/-- The distance between two texts. -/
def distance (first second : Text) : Nat :=
  ((table first second).rows.getLastD []).getLastD 0

end TextAnalysis.Damerau
