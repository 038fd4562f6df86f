/-
# The Levenshtein distance in two rows

The distance computed with two rows of fixed length that take turns: one holds the row above, and the other one, which
still has the entries of an earlier row in it, is overwritten from left to right. An index outside of a row stops the
computation. That does not happen, an entry is never read before it is overwritten, and the result is the distance.
-/
import Mathlib.Data.List.GetD
import Mathlib.Data.List.Induction
import TextAnalysis.Proofs.Metric.Filling
import TextAnalysis.Proofs.Metric.Levenshtein

namespace TextAnalysis.Levenshtein

open Damerau (Fault readAt readAt_ok)

/-! ## The computation -/

/-- Overwrites what stands at a place of a list. -/
def writeAt {α : Type} (l : List α) (i : Nat) (x : α) : Except Fault (List α) :=
  if i < l.length then .ok (l.set i x) else .error .outOfBounds

/-- The row that was filled last, and the one that is overwritten next. -/
structure TwoRows where
  previous : List Nat
  current : List Nat

/-- Fills the entry for a character of the second text and its place. -/
def fillEntry (a : Char) (previous current : List Nat) : Char × Nat → Except Fault (List Nat)
  | (b, j) => do
    let substitution := (← readAt previous j) + if a = b then 0 else 1
    let left ← readAt current j
    let up ← readAt previous (j + 1)
    writeAt current (j + 1) (min (min (left + 1) (up + 1)) substitution)

/-- Fills the row for a character of the first text and its place. Then the rows change their roles. -/
def fillRow (second : Text) (rows : TwoRows) : Char × Nat → Except Fault TwoRows
  | (a, i) => do
    let started ← writeAt rows.current 0 (i + 1)
    let filled ← second.zipIdx.foldlM (fillEntry a rows.previous) started
    return { previous := filled, current := rows.previous }

/-- The distance between two texts. -/
def distanceInRows (first second : Text) : Except Fault Nat := do
  if first = [] then return second.length
  if second = [] then return first.length
  let zeros := List.replicate (second.length + 1) 0
  let rows ← first.zipIdx.foldlM (fillRow second) ⟨List.range (second.length + 1), zeros⟩
  readAt rows.previous second.length

/-! ## Steps that succeed -/

theorem writeAt_ok {α : Type} {l : List α} {i : Nat} (h : i < l.length) (x : α) : writeAt l i x = .ok (l.set i x) :=
  if_pos h

theorem readAt_getD {l : List Nat} {i : Nat} (h : i < l.length) : readAt l i = .ok (l.getD i 0) := by
  rw [List.getD_eq_getElem _ _ h]
  exact readAt_ok (List.getElem?_eq_getElem h)

/-- What stands at a place after one place has been overwritten. -/
theorem getD_set {l : List Nat} {i : Nat} (h : i < l.length) (x k : Nat) :
    (l.set i x).getD k 0 = if k = i then x else l.getD k 0 := by
  rw [List.getD_eq_getElem?_getD, List.getElem?_set, List.getD_eq_getElem?_getD]
  by_cases hk : k = i
  · rw [if_pos hk.symm, if_pos h, if_pos hk, Option.getD_some]
  · rw [if_neg (Ne.symm hk), if_neg hk]

/-- A loop over a list and its places succeeds if every step does. `p` holds of what the loop has after the part of the
list that its first argument says. -/
theorem exists_foldlM_zipIdx {α σ : Type} (f : σ → α × Nat → Except Fault σ) {l : List α} {s : σ}
    (p : List α → σ → Prop) (hstart : p [] s)
    (hstep : ∀ passed a s, passed ++ [a] <+: l → p passed s →
      ∃ s', f s (a, passed.length) = .ok s' ∧ p (passed ++ [a]) s') :
    ∃ s', l.zipIdx.foldlM f s = .ok s' ∧ p l s' := by
  induction l using List.reverseRecOn with
  | nil => exact ⟨s, rfl, hstart⟩
  | append_singleton l a ih =>
    obtain ⟨s₁, hrun, hp⟩ := ih fun passed a' s hpassed => hstep passed a' s (hpassed.trans (List.prefix_append l [a]))
    obtain ⟨s₂, hlast, hp⟩ := hstep l a s₁ (List.prefix_refl _) hp
    refine ⟨s₂, ?_, hp⟩
    rw [List.zipIdx_append, List.foldlM_append, hrun, ok_bind, Nat.zero_add, List.zipIdx_singleton, List.foldlM_cons,
      hlast]
    rfl

/-! ## What is filled -/

/-- A row that has the entries of the distance up to some column. Those behind it are left from an earlier row. -/
structure FilledTo (first second : Text) (j : Nat) (row : List Nat) : Prop where
  length_eq : row.length = second.length + 1
  getD_eq : ∀ k ≤ j, row.getD k 0 = cell first second k

section

variable {first second q : Text} {current : List Nat}

/-- A row that is filled up to its end. -/
theorem FilledTo.eq_lastRow (h : FilledTo first second second.length current) : current = lastRow first second := by
  refine List.ext_getElem (h.length_eq.trans (length_lastRow first second).symm) fun k hk hk' => ?_
  have hentry := h.getD_eq k (by have := h.length_eq; omega)
  rwa [List.getD_eq_getElem _ _ hk, cell, List.getD_eq_getElem _ _ hk'] at hentry

/-- The first entry is overwritten in a row of whatever entries. -/
theorem filledTo_start (hlength : current.length = second.length + 1) (a : Char) :
    FilledTo (first ++ [a]) second 0 (current.set 0 (first.length + 1)) := by
  refine ⟨List.length_set.trans hlength, fun k hk => ?_⟩
  obtain rfl : k = 0 := Nat.le_zero.1 hk
  rw [getD_set (by omega), if_pos rfl, cell_zero, List.length_append, List.length_singleton]

/-- Filling an entry succeeds, and what is filled reaches one column farther. -/
theorem exists_fillEntry (a : Char) {b : Char} (hq : q ++ [b] <+: second)
    (h : FilledTo (first ++ [a]) second q.length current) :
    ∃ filled, fillEntry a (lastRow first second) current (b, q.length) = .ok filled ∧
      FilledTo (first ++ [a]) second (q ++ [b]).length filled := by
  have hq₁ := hq.length_le
  rw [List.length_append, List.length_singleton] at hq₁ ⊢
  have hcurrent := h.length_eq
  have hprevious := length_lastRow first second
  refine ⟨current.set (q.length + 1) (cell (first ++ [a]) second (q.length + 1)), ?_, ?_, fun k hk => ?_⟩
  · rw [cell_concat first a hq, fillEntry, readAt_getD (by omega), ok_bind, readAt_getD (by omega), ok_bind,
      readAt_getD (by omega), ok_bind, writeAt_ok (by omega), h.getD_eq q.length (Nat.le_refl _)]
    rfl
  · rw [List.length_set, hcurrent]
  · rw [getD_set (by omega)]
    split
    · rename_i hnew
      rw [hnew]
    · exact h.getD_eq k (by omega)

/-- Filling a row succeeds whatever is in it before, and afterwards it is the row of one more character. -/
theorem fillRow_eq (first : Text) (a : Char) (hlength : current.length = second.length + 1) :
    fillRow second ⟨lastRow first second, current⟩ (a, first.length) =
      .ok ⟨lastRow (first ++ [a]) second, lastRow first second⟩ := by
  obtain ⟨filled, hrun, hfilled⟩ := exists_foldlM_zipIdx (fillEntry a (lastRow first second)) (l := second)
    (fun passed => FilledTo (first ++ [a]) second passed.length) (filledTo_start hlength a)
    fun passed b current hpassed h => exists_fillEntry a hpassed h
  have hpos : 0 < current.length := by omega
  rw [fillRow, writeAt_ok hpos, ok_bind, hrun, hfilled.eq_lastRow]
  rfl

end

/-- All indices lie within the rows, and the result is the distance. -/
theorem distanceInRows_eq (first second : Text) : distanceInRows first second = .ok (distance first second) := by
  rw [distance_eq_cell]
  unfold distanceInRows
  by_cases hfirst : first = []
  · rw [if_pos hfirst, hfirst, cell_nil (Nat.le_refl _)]
    rfl
  by_cases hsecond : second = []
  · rw [if_neg hfirst, if_pos hsecond, hsecond, List.length_nil, cell_zero]
    rfl
  -- After each row the one that is read next is the last row of what has been passed; the other one may hold
  -- anything.
  obtain ⟨rows, hrun, hprevious, -⟩ := exists_foldlM_zipIdx (fillRow second) (l := first)
    (s := ⟨List.range (second.length + 1), List.replicate (second.length + 1) 0⟩)
    (fun passed rows => rows.previous = lastRow passed second ∧ rows.current.length = second.length + 1)
    ⟨rfl, List.length_replicate⟩ fun passed a rows _ ⟨hprevious, hcurrent⟩ => by
      obtain ⟨previous, current⟩ := rows
      subst hprevious
      exact ⟨_, fillRow_eq passed a hcurrent, rfl, length_lastRow passed second⟩
  rw [if_neg hfirst, if_neg hsecond]
  show (first.zipIdx.foldlM (fillRow second) _ >>= _) = _
  rw [hrun, ok_bind, hprevious, readAt_getD (by rw [length_lastRow]; omega)]
  rfl

/-! ## The distance -/

/-- The distance is the least number of insertions, deletions and substitutions of single characters, one after the
other, that turn one text into the other. Two rows that take turns are enough to compute it, with no index outside of
them. -/
theorem distance_fewestEdits :
    (∀ a b, IsLeast {n | Edits false n a b} (distance a b)) ∧ ∀ a b, distanceInRows a b = .ok (distance a b) :=
  ⟨countsEdits_distance, distanceInRows_eq⟩

/-- Neighbours that are swapped cost two edits. -/
example : distance ['a', 'b'] ['b', 'a'] = 2 ∧ distance "kitten".toList "sitting".toList = 3 := by
  decide

end TextAnalysis.Levenshtein
