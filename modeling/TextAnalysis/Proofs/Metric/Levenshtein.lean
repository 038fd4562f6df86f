/-
# The rows of the Levenshtein distance

What the entries of a row have to do with layouts without swaps: an entry is the cost of a layout of the first text
beside the beginning of the second one that it stands for, and no such layout costs less.
-/
import Mathlib.Data.List.GetD
import Mathlib.Data.List.Induction
import Mathlib.Data.Nat.Basic
import Mathlib.Order.Basic
import TextAnalysis.Metric.Levenshtein
import TextAnalysis.Proofs.Metric.Tables

namespace TextAnalysis.Levenshtein

/-! ## Rows -/

/-- An entry from the one before it, the one above it and the one above that one before. -/
def nextEntry (left up corner : Nat) (a b : Char) : Nat :=
  min (min (left + 1) (up + 1)) (corner + if a = b then 0 else 1)

theorem length_rowFrom (a : Char) (left : Nat) {above : List Nat} {second : Text}
    (h : above.length = second.length + 1) : (rowFrom a left above second).length = second.length := by
  induction second generalizing above left with
  | nil =>
    match above, h with
    | [corner], _ => rfl
  | cons b second ih =>
    match above, h with
    | corner :: up :: above, h =>
      simp only [rowFrom, List.length_cons, Nat.add_right_cancel_iff]
      exact ih _ (by simpa using h)

/-- Every entry of a row but the first comes from the one before it and from those above. -/
theorem getD_rowFrom (a : Char) (left : Nat) {above : List Nat} {second : Text}
    (h : above.length = second.length + 1) {k : Nat} {b : Char} (hb : second[k]? = some b) {row : List Nat}
    (hrow : row = left :: rowFrom a left above second) :
    row.getD (k + 1) 0 = nextEntry (row.getD k 0) (above.getD (k + 1) 0) (above.getD k 0) a b := by
  induction second generalizing above k left row with
  | nil => cases hb
  | cons c second ih =>
    match above, h with
    | corner :: up :: above, h =>
      rw [rowFrom] at hrow
      subst hrow
      cases k with
      | zero =>
        obtain rfl : c = b := by simpa using hb
        rfl
      | succ k => exact ih _ (by simpa using h) hb rfl

/-- The entry of the last row for a beginning of the second text with a given length. -/
def cell (first second : Text) (j : Nat) : Nat :=
  (lastRow first second).getD j 0

theorem lastRow_concat (first : Text) (a : Char) (second : Text) :
    lastRow (first ++ [a]) second = nextRow second (lastRow first second) a := by
  unfold lastRow
  rw [List.foldl_append, List.foldl_cons, List.foldl_nil]

theorem length_lastRow (first second : Text) : (lastRow first second).length = second.length + 1 := by
  induction first using List.reverseRecOn with
  | nil => exact List.length_range
  | append_singleton first a ih => rw [lastRow_concat, nextRow, List.length_cons, length_rowFrom _ _ ih]

theorem cell_nil {second : Text} {j : Nat} (hj : j ≤ second.length) : cell [] second j = j :=
  getD_range hj

theorem cell_concat_zero (first : Text) (a : Char) (second : Text) :
    cell (first ++ [a]) second 0 = cell first second 0 + 1 := by
  unfold cell
  rw [lastRow_concat, nextRow, List.getD_cons_zero]
  cases lastRow first second <;> rfl

theorem cell_zero (first second : Text) : cell first second 0 = first.length := by
  induction first using List.reverseRecOn with
  | nil => exact cell_nil (Nat.zero_le _)
  | append_singleton first a ih => rw [cell_concat_zero, ih, List.length_append, List.length_singleton]

/-- Every other entry comes from its neighbours. -/
theorem cell_concat (first : Text) (a : Char) {second q : Text} {b : Char} (hq : q ++ [b] <+: second) :
    cell (first ++ [a]) second (q.length + 1) = nextEntry (cell (first ++ [a]) second q.length)
      (cell first second (q.length + 1)) (cell first second q.length) a b := by
  obtain ⟨rest, rfl⟩ := hq
  have hb : (q ++ [b] ++ rest)[q.length]? = some b := by simp
  exact getD_rowFrom a _ (length_lastRow first _) hb (lastRow_concat first a _)

/-! ## Entries as costs -/

/-- An entry is the cost of a layout of the texts that it stands for. -/
theorem layout_cell (first : Text) {second q : Text} (hq : q <+: second) :
    Layout false (cell first second q.length) first q := by
  refine beginnings_induction (motive := fun p q => Layout false (cell p second q.length) p q)
    (fun q hq => ?top) (fun p _ => ?side) (fun p q a b hp hq hrows hleft => ?inner) (List.prefix_refl first) hq
  case top =>
    rw [cell_nil hq.length_le]
    exact .insertAll q
  case side =>
    rw [List.length_nil, cell_zero]
    exact .deleteAll p
  case inner =>
    have hpBefore := (List.prefix_append p [a]).trans hp
    have hup := hrows p _ (Nat.le_refl _) hpBefore hq
    have hcorner := hrows p q (Nat.le_refl _) hpBefore ((List.prefix_append q [b]).trans hq)
    rw [List.length_append, List.length_singleton] at hup ⊢
    rw [cell_concat p a hq, nextEntry]
    exact min_rec' (fun n => Layout false n _ _) (min_rec' (fun n => Layout false n _ _) (hleft.insert b)
      (hup.delete a)) (hcorner.pair a b)

/-! ## Entries as least costs -/

theorem editEntries_cell (first second : Text) : EditEntries first second fun p q => cell p second q.length where
  top hq := cell_nil hq.length_le
  side {p} _ := cell_zero p second
  inner_le {p q a b} _ hq := by
    rw [List.length_append, List.length_singleton, cell_concat p a hq]
    exact Nat.le_refl _

/-- No layout of two texts costs less than the entry that stands for them. -/
theorem cell_le {first second q : Text} {n : Nat} (h : Layout false n first q) (hq : q <+: second) :
    cell first second q.length ≤ n :=
  (editEntries_cell first second).le_of_layout (fun hswaps => by cases hswaps) h (List.prefix_refl first) hq

/-! ## The distance -/

/-- The distance is the last entry. -/
theorem distance_eq_cell (first second : Text) : distance first second = cell first second second.length := by
  rw [distance, List.getLastD_eq_getLast?, List.getLast?_eq_getElem?, length_lastRow]
  rfl

/-- The distance is the least number of edits without swaps. -/
theorem countsEdits_distance : CountsEdits false distance := by
  refine .of_layouts (fun a b => ?_) fun a b n h => ?_
  · rw [distance_eq_cell]
    exact layout_cell a (List.prefix_refl b)
  · rw [distance_eq_cell]
    exact cell_le h (List.prefix_refl b)

/-- The lengths of two texts differ by no more than their distance. -/
theorem length_le_distance (first second : Text) : second.length ≤ first.length + distance first second := by
  rw [distance_eq_cell]
  exact (layout_cell first (List.prefix_refl second)).length_le.2

end TextAnalysis.Levenshtein
