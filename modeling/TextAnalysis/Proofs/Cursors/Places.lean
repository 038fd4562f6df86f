/-
# Places of a list

A list taken apart at one place or at two places, and what the changes by index that cursors make come to there.
-/
import Mathlib.Data.List.InsertIdx

namespace TextAnalysis.Places

variable {α : Type}

/-- What stands at an index divides a list. -/
theorem exists_split {l : List α} {i : Nat} {a : α} (h : l[i]? = some a) :
    ∃ before after, l = before ++ a :: after ∧ before.length = i := by
  obtain ⟨hi, rfl⟩ := List.getElem?_eq_some_iff.1 h
  refine ⟨l.take i, l.drop (i + 1), ?_, List.length_take_of_le (Nat.le_of_lt hi)⟩
  rw [← List.drop_eq_getElem_cons hi, List.take_append_drop]

/-- What stands at two indices divides a list in three. -/
theorem exists_split_split {l : List α} {low high : Nat} {a b : α} (hlt : low < high) (ha : l[low]? = some a)
    (hb : l[high]? = some b) :
    ∃ before between after, l = before ++ a :: (between ++ b :: after) ∧ before.length = low ∧
      before.length + between.length + 1 = high := by
  obtain ⟨before, rest, rfl, rfl⟩ := exists_split ha
  have hrest : rest[high - (before.length + 1)]? = some b := by
    have hsplit : before ++ a :: rest = (before ++ [a]) ++ rest := List.append_cons before a rest
    have hlength : (before ++ [a]).length = before.length + 1 := List.length_append
    rw [hsplit, List.getElem?_append_right (by omega), hlength] at hb
    exact hb
  obtain ⟨between, after, rfl, hbetween⟩ := exists_split hrest
  exact ⟨before, between, after, rfl, rfl, by omega⟩

theorem getElem?_split (before after : List α) (a : α) : (before ++ a :: after)[before.length]? = some a := by
  rw [List.getElem?_append_right (Nat.le_refl _), Nat.sub_self]
  rfl

theorem set_split (before after : List α) (a b : α) :
    (before ++ a :: after).set before.length b = before ++ b :: after := by
  rw [List.set_append_right _ _ (Nat.le_refl _), Nat.sub_self]
  rfl

theorem eraseIdx_split (before after : List α) (a : α) :
    (before ++ a :: after).eraseIdx before.length = before ++ after := by
  rw [List.eraseIdx_append_of_length_le (Nat.le_refl _), Nat.sub_self]
  rfl

theorem insertIdx_split (before after : List α) (a : α) :
    (before ++ after).insertIdx before.length a = before ++ a :: after := by
  induction before with
  | nil => rfl
  | cons b before ih => exact congrArg (b :: ·) ih

/-- One of two places is overwritten and the later one goes away. -/
theorem eraseIdx_set_split (before between after : List α) (a b c : α) :
    ((before ++ a :: (between ++ b :: after)).set before.length c).eraseIdx
        (before.length + between.length + 1) = before ++ c :: (between ++ after) := by
  have hlength : (before ++ c :: between).length = before.length + between.length + 1 := by
    rw [List.length_append, List.length_cons, Nat.add_assoc]
  rw [set_split, ← List.cons_append, ← List.append_assoc, ← hlength, eraseIdx_split, List.append_assoc,
    List.cons_append]

/-! ## Lists with their indices -/

/-- Dropping from the start leaves the greater indices. -/
theorem drop_zipIdx_eq_filter (l : List α) (start n : Nat) :
    (l.zipIdx start).drop n = (l.zipIdx start).filter fun r => start + n ≤ r.2 := by
  induction l generalizing start n with
  | nil => rw [List.zipIdx_nil, List.drop_nil, List.filter_nil]
  | cons a l ih =>
    cases n with
    | zero =>
      refine (List.filter_eq_self.2 ?_).symm
      intro r hr
      exact decide_eq_true (List.le_snd_of_mem_zipIdx hr)
    | succ n =>
      rw [List.zipIdx_cons, List.drop_succ_cons, ih, List.filter_cons_of_neg (by simp)]
      refine List.filter_congr ?_
      intro r _
      rw [decide_eq_decide]
      omega

theorem take_zipIdx_eq_filter (l : List α) (start n : Nat) :
    (l.zipIdx start).take n = (l.zipIdx start).filter fun r => r.2 < start + n := by
  induction l generalizing start n with
  | nil => rw [List.zipIdx_nil, List.take_nil, List.filter_nil]
  | cons a l ih =>
    cases n with
    | zero =>
      -- No index is less than the first one.
      refine (List.filter_eq_nil_iff.2 ?_).symm
      intro r hr
      have hle := List.le_snd_of_mem_zipIdx hr
      simp only [decide_eq_true_eq]
      omega
    | succ n =>
      rw [List.zipIdx_cons, List.take_succ_cons, ih, List.filter_cons_of_pos (by simp)]
      refine congrArg _ (List.filter_congr ?_)
      intro r _
      rw [decide_eq_decide]
      omega

/-- Indices that are shifted alike. -/
theorem map_zipIdx_shift (l : List α) {start start' : Nat} {f : Nat → Nat}
    (h : ∀ n, n < l.length → f (start + n) = start' + n) :
    (l.zipIdx start).map (fun r => (r.1, f r.2)) = l.zipIdx start' := by
  refine List.ext_getElem (by simp) ?_
  intro n hn hn'
  rw [List.getElem_map, List.getElem_zipIdx, List.getElem_zipIdx, h n (by simpa using hn)]

/-- Where the items are after one of two places was overwritten and the later one has gone away: those behind it move
by one. -/
theorem zipIdx_eraseIdx_set {l : List α} {low high : Nat} {a b : α} (hlt : low < high) (ha : l[low]? = some a)
    (hb : l[high]? = some b) (c : α) :
    (((l.set low c).eraseIdx high).zipIdx.filter fun r => r.2 ≠ low) =
      (l.zipIdx.filter fun r => r.2 ≠ low ∧ r.2 ≠ high).map fun r =>
        (r.1, if r.2 < high then r.2 else r.2 - 1) := by
  obtain ⟨before, between, after, rfl, rfl, rfl⟩ := exists_split_split hlt ha hb
  -- Of each of the three parts no item goes away, and the items move alike.
  have hpart : ∀ (part : List α) (start start' : Nat),
      (∀ n, n < part.length → start' + n ≠ before.length ∧ start + n ≠ before.length ∧
        start + n ≠ before.length + between.length + 1 ∧
        (if start + n < before.length + between.length + 1 then start + n else start + n - 1) = start' + n) →
      ((part.zipIdx start').filter fun r => r.2 ≠ before.length) =
        ((part.zipIdx start).filter fun r =>
          r.2 ≠ before.length ∧ r.2 ≠ before.length + between.length + 1).map fun r =>
          (r.1, if r.2 < before.length + between.length + 1 then r.2 else r.2 - 1) := by
    intro part start start' h
    have hindex : ∀ {k : Nat} {r : α × Nat}, r ∈ part.zipIdx k → ∃ n, n < part.length ∧ r.2 = k + n := by
      intro k r hr
      have hle := List.le_snd_of_mem_zipIdx hr
      have hlt := List.snd_lt_add_of_mem_zipIdx hr
      exact ⟨r.2 - k, by omega, by omega⟩
    rw [List.filter_eq_self.2, List.filter_eq_self.2]
    · exact (map_zipIdx_shift part (f := fun n => if n < before.length + between.length + 1 then n else n - 1)
        fun n hn => (h n hn).2.2.2).symm
    · intro r hr
      obtain ⟨n, hn, hr⟩ := hindex hr
      exact decide_eq_true (hr ▸ ⟨(h n hn).2.1, (h n hn).2.2.1⟩)
    · intro r hr
      obtain ⟨n, hn, hr⟩ := hindex hr
      exact decide_eq_true (hr ▸ (h n hn).1)
  rw [eraseIdx_set_split, List.zipIdx_append, List.zipIdx_append, List.zipIdx_cons, List.zipIdx_cons,
    List.zipIdx_append, List.zipIdx_append, List.zipIdx_cons, List.filter_append, List.filter_append,
    List.filter_cons_of_neg (by simp), List.filter_cons_of_neg (by simp), List.filter_append, List.filter_append,
    List.filter_cons_of_neg (by simp; omega), List.map_append, List.map_append]
  refine congrArg₂ _ (hpart before _ _ ?_) (congrArg₂ _ (hpart between _ _ ?_) (hpart after _ _ ?_))
  · intro n hn
    rw [if_pos (by omega)]
    omega
  · intro n hn
    rw [if_pos (by omega)]
    omega
  · intro n hn
    rw [if_neg (by omega)]
    omega

end TextAnalysis.Places
