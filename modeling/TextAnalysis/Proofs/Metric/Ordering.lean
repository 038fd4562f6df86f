/-
# The order of the distances

The more a single edit may do, the smaller is the distance: swaps in any place make it no greater than swaps of
neighbours that are edited once, these no greater than no swaps, and that no greater than the number of places that
differ. All lie between the difference of the lengths and the greater length.
-/
import Mathlib.Algebra.Order.Group.Abs
import Mathlib.Algebra.Order.Group.Int
import TextAnalysis.Metric
import TextAnalysis.Proofs.Metric.Alignment
import TextAnalysis.Proofs.Metric.Damerau
import TextAnalysis.Proofs.Metric.Levenshtein

namespace TextAnalysis

/-! ## Places that differ -/

namespace Metric

theorem mismatches_cons (x y : Char) (first second : Text) :
    mismatches (x :: first) (y :: second) = (if x = y then 0 else 1) + mismatches first second := by
  unfold mismatches
  rw [List.zip_cons_cons, List.filter_cons]
  by_cases h : x = y
  · simp [h]
  · simp [h, Nat.add_comm]

theorem mismatches_le_left (first second : Text) : mismatches first second ≤ first.length := by
  refine Nat.le_trans (List.length_filter_le _ _) ?_
  rw [List.length_zip]
  exact Nat.min_le_left _ _

theorem mismatches_comm (first second : Text) : mismatches first second = mismatches second first := by
  induction first generalizing second with
  | nil => simp [mismatches]
  | cons x first ih =>
    cases second with
    | nil => rfl
    | cons y second => rw [mismatches_cons, mismatches_cons, ih, if_congr eq_comm rfl rfl]

theorem mismatches_self (text : Text) : mismatches text text = 0 := by
  induction text with
  | nil => rfl
  | cons x text ih => rw [mismatches_cons, if_pos rfl, ih]

/-- The Hamming distance of texts of the same length is the number of places that differ. -/
theorem evaluate_hamming {first second : Text} (h : first.length = second.length) :
    (hamming .distance).evaluate first second = .ok (.count (mismatches first second)) :=
  if_pos h

end Metric

namespace Layout

variable {swaps : Bool}

/-- Texts of the same length can be laid out character by character. -/
theorem of_mismatches {a b : Text} (h : a.length = b.length) : Layout swaps (Metric.mismatches a b) a b := by
  induction a generalizing b with
  | nil =>
    obtain rfl : b = [] := List.eq_nil_of_length_eq_zero h.symm
    exact .nil
  | cons x a ih =>
    cases b with
    | nil => cases h
    | cons y b =>
      have hrest := ih (Nat.succ.inj h)
      rw [Metric.mismatches_cons]
      split
      · rename_i hxy
        rw [hxy]
        exact (nil.keep y).append hrest
      · exact (nil.substitute x y).append hrest

/-- Two texts can be laid out character by character, with what one of them has more at the end. -/
theorem exists_le_max (a b : Text) : ∃ n ≤ max a.length b.length, Layout swaps n a b := by
  have hlength : (a.take b.length).length = (b.take a.length).length := by
    rw [List.length_take, List.length_take, Nat.min_comm]
  have hmismatches := Metric.mismatches_le_left (a.take b.length) (b.take a.length)
  have hends : Layout swaps _ (a.drop b.length ++ []) ([] ++ b.drop a.length) :=
    (deleteAll (a.drop b.length)).append (insertAll (b.drop a.length))
  have hall := (of_mismatches hlength).append hends
  rw [List.append_nil, List.nil_append, List.take_append_drop, List.take_append_drop] at hall
  refine ⟨_, ?_, hall⟩
  rw [List.length_take] at hmismatches
  rw [List.length_drop, List.length_drop]
  omega

end Layout

/-! ## Bounds of the distances -/

theorem Levenshtein.distance_le {n : Nat} {a b : Text} (h : Layout false n a b) : distance a b ≤ n :=
  (countsEdits_distance a b).2 h.edits

theorem Levenshtein.distance_le_max (a b : Text) : distance a b ≤ max a.length b.length := by
  obtain ⟨n, hn, h⟩ : ∃ n ≤ max a.length b.length, Layout false n a b := Layout.exists_le_max a b
  exact (distance_le h).trans hn

theorem Alignment.distance_le_levenshtein (a b : Text) : distance a b ≤ Levenshtein.distance a b := by
  rw [Levenshtein.distance_eq_cell]
  exact (isLeast_distance a b).2 (.of_layout (Levenshtein.layout_cell a (List.prefix_refl b)))

theorem Damerau.distance_le_alignment (a b : Text) : distance a b ≤ Alignment.distance a b :=
  (countsEdits_distance a b).2 (Alignment.isLeast_distance a b).1.layout.edits

/-- The lengths of two texts differ by no more than their distance. -/
theorem Damerau.abs_length_sub_le (a b : Text) : |(a.length : ℤ) - b.length| ≤ distance a b := by
  rw [distance_eq_cell]
  have hlength := (layout_cell (List.prefix_refl a) (List.prefix_refl b)).length_le
  rw [abs_le]
  omega

theorem Alignment.distance_eq_zero_iff {a b : Text} : distance a b = 0 ↔ a = b := by
  constructor
  · intro hzero
    have hle := Damerau.distance_le_alignment a b
    exact Damerau.countsEdits_distance.eq_zero_iff.1 (by omega)
  · rintro rfl
    exact distance_self a

/-! ## The order -/

/-- The difference of the lengths, the distances with swaps anywhere, with swaps of neighbours that are edited once and
without swaps, and the greater length stand in this order. Texts of the same length have a Hamming distance, which is no
less than the distance without swaps. The three distances are zero for equal texts only. -/
theorem distances_ordered (a b : Text) :
    |(a.length : ℤ) - b.length| ≤ Damerau.distance a b ∧ Damerau.distance a b ≤ Alignment.distance a b ∧
      Alignment.distance a b ≤ Levenshtein.distance a b ∧ Levenshtein.distance a b ≤ max a.length b.length ∧
      (a.length = b.length →
        ∃ n, (Metric.hamming .distance).evaluate a b = .ok (.count n) ∧ Levenshtein.distance a b ≤ n) ∧
      (Damerau.distance a b = 0 ↔ a = b) ∧ (Alignment.distance a b = 0 ↔ a = b) ∧
      (Levenshtein.distance a b = 0 ↔ a = b) := by
  refine ⟨Damerau.abs_length_sub_le a b, Damerau.distance_le_alignment a b, Alignment.distance_le_levenshtein a b,
    Levenshtein.distance_le_max a b, fun hlength => ?_, Damerau.countsEdits_distance.eq_zero_iff,
    Alignment.distance_eq_zero_iff, Levenshtein.countsEdits_distance.eq_zero_iff⟩
  exact ⟨_, Metric.evaluate_hamming hlength, Levenshtein.distance_le (.of_mismatches hlength)⟩

/-- Two texts of the same length that are one edit apart with swaps, and two without. -/
theorem distances_ordered_swapped :
    ['a', 'b', 'c'].length = ['b', 'a', 'c'].length ∧
      ∃ n, (Metric.hamming .distance).evaluate ['a', 'b', 'c'] ['b', 'a', 'c'] = .ok (.count n) ∧
        Levenshtein.distance ['a', 'b', 'c'] ['b', 'a', 'c'] ≤ n :=
  ⟨rfl, (distances_ordered ['a', 'b', 'c'] ['b', 'a', 'c']).2.2.2.2.1 rfl⟩

end TextAnalysis
