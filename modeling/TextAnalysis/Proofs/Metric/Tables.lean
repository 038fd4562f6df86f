/-
# Tables of the beginnings of two texts

The distances are the last entries of tables that have an entry for every two beginnings of the texts. In all of them
an entry is no greater than its neighbours allow, and they differ in the swaps that they take into account. What needs
no more than the neighbours is proved here for any such table.
-/
import Mathlib.Data.List.GetD
import Mathlib.Data.List.Induction
import Mathlib.Data.Nat.Basic
import Mathlib.Order.Basic
import TextAnalysis.Proofs.Metric.Layouts

namespace TextAnalysis

/-! ## Entries and the neighbours of entries -/

/-- The first row of a table. -/
theorem getD_range {n j : Nat} (hj : j ≤ n) : (List.range (n + 1)).getD j 0 = j := by
  rw [List.getD_eq_getElem _ _ (by simpa using Nat.lt_succ_of_le hj), List.getElem_range]

/-- What holds of two beginnings if it holds of those that stand before them in a table. All earlier rows are before an
entry, since a swap goes back to any of them. -/
theorem beginnings_induction {first second p q : Text} {motive : Text → Text → Prop}
    (top : ∀ q, q <+: second → motive [] q)
    (side : ∀ p, p <+: first → motive p [])
    (inner : ∀ p q a b, p ++ [a] <+: first → q ++ [b] <+: second →
      (∀ s t, s.length ≤ p.length → s <+: first → t <+: second → motive s t) → motive (p ++ [a]) q →
        motive (p ++ [a]) (q ++ [b]))
    (hp : p <+: first) (hq : q <+: second) : motive p q := by
  -- By strong induction on the row, and in a row on the column.
  induction hn : p.length using Nat.strongRecOn generalizing p q with
  | ind n ihRow =>
  subst hn
  rcases p.eq_nil_or_concat with rfl | ⟨p, a, rfl⟩
  · exact top q hq
  rw [List.concat_eq_append] at hp ihRow ⊢
  induction q using List.reverseRecOn with
  | nil => exact side _ hp
  | append_singleton q b ihColumn =>
    refine inner p q a b hp hq (fun s t hlength hs ht => ?_) (ihColumn ((List.prefix_append q [b]).trans hq))
    refine ihRow s.length ?_ hs ht rfl
    rw [List.length_append, List.length_singleton]
    exact Nat.lt_succ_of_le hlength

/-- Entries for the beginnings of two texts which count the characters where one of the two is empty, and are no greater
elsewhere than an insertion, a deletion or a substitution after a neighbour. -/
structure EditEntries (first second : Text) (entry : Text → Text → Nat) : Prop where
  top {q : Text} (hq : q <+: second) : entry [] q = q.length
  side {p : Text} (hp : p <+: first) : entry p [] = p.length
  inner_le {p q : Text} {a b : Char} (hp : p ++ [a] <+: first) (hq : q ++ [b] <+: second) :
    entry (p ++ [a]) (q ++ [b]) ≤ min (min (entry (p ++ [a]) q + 1) (entry p (q ++ [b]) + 1))
      (entry p q + if a = b then 0 else 1)

namespace EditEntries

variable {first second p q : Text} {entry : Text → Text → Nat}

/-! ## One character more -/

/-- One character more of the second text makes an entry greater by one at most. -/
theorem insert_le {b : Char} (h : EditEntries first second entry) (hp : p <+: first) (hq : q ++ [b] <+: second) :
    entry p (q ++ [b]) ≤ entry p q + 1 := by
  rcases p.eq_nil_or_concat with rfl | ⟨p, a, rfl⟩
  · rw [h.top hq, h.top ((List.prefix_append q [b]).trans hq), List.length_append, List.length_singleton]
  · rw [List.concat_eq_append] at hp ⊢
    exact (h.inner_le hp hq).trans ((Nat.min_le_left _ _).trans (Nat.min_le_left _ _))

/-- One character more of the first text makes an entry greater by one at most. -/
theorem delete_le {a : Char} (h : EditEntries first second entry) (hp : p ++ [a] <+: first) (hq : q <+: second) :
    entry (p ++ [a]) q ≤ entry p q + 1 := by
  rcases q.eq_nil_or_concat with rfl | ⟨q, b, rfl⟩
  · rw [h.side hp, h.side ((List.prefix_append p [a]).trans hp), List.length_append, List.length_singleton]
  · rw [List.concat_eq_append] at hq ⊢
    exact (h.inner_le hp hq).trans ((Nat.min_le_left _ _).trans (Nat.min_le_right _ _))

theorem keep_le {x : Char} (h : EditEntries first second entry) (hp : p ++ [x] <+: first) (hq : q ++ [x] <+: second) :
    entry (p ++ [x]) (q ++ [x]) ≤ entry p q := by
  have hcorner := (h.inner_le hp hq).trans (Nat.min_le_right _ _)
  rwa [if_pos rfl] at hcorner

theorem substitute_le {a b : Char} (h : EditEntries first second entry) (hp : p ++ [a] <+: first)
    (hq : q ++ [b] <+: second) : entry (p ++ [a]) (q ++ [b]) ≤ entry p q + 1 := by
  refine ((h.inner_le hp hq).trans (Nat.min_le_right _ _)).trans (Nat.add_le_add_left ?_ _)
  split <;> omega

/-- More characters of both texts make an entry greater by no more than their number. -/
theorem append_le (h : EditEntries first second entry) (u w : Text) (hp : p ++ u <+: first) (hq : q ++ w <+: second) :
    entry (p ++ u) (q ++ w) ≤ entry p q + u.length + w.length := by
  -- The characters come one by one, first those of the second text.
  induction u using List.reverseRecOn with
  | nil =>
    induction w using List.reverseRecOn with
    | nil => simp
    | append_singleton w b ih =>
      rw [← List.append_assoc] at hq ⊢
      have hrest := ih ((List.prefix_append _ [b]).trans hq)
      have hstep := h.insert_le hp hq
      rw [List.length_append, List.length_singleton]
      omega
  | append_singleton u a ih =>
    rw [← List.append_assoc] at hp ⊢
    have hrest := ih ((List.prefix_append _ [a]).trans hp)
    have hstep := h.delete_le hp hq
    rw [List.length_append, List.length_singleton]
    omega

/-! ## Entries and layouts -/

/-- No layout of two beginnings costs less than their entry, if blocks of swaps do not. -/
theorem le_of_layout {swaps : Bool} {n : Nat} (h : EditEntries first second entry)
    (hexchange : swaps = true → ∀ {p q : Text} (x y : Char) (u w : Text), p ++ x :: (u ++ [y]) <+: first →
      q ++ y :: (w ++ [x]) <+: second →
        entry (p ++ x :: (u ++ [y])) (q ++ y :: (w ++ [x])) ≤ entry p q + (u.length + w.length + 1))
    (hlayout : Layout swaps n p q) (hp : p <+: first) (hq : q <+: second) : entry p q ≤ n := by
  induction hlayout with
  | nil => exact Nat.le_of_eq (h.top hq)
  | @insert n p q y _ ih =>
    have hbefore := ih hp ((List.prefix_append q [y]).trans hq)
    exact (h.insert_le hp hq).trans (Nat.succ_le_succ hbefore)
  | @delete n p q x _ ih =>
    have hbefore := ih ((List.prefix_append p [x]).trans hp) hq
    exact (h.delete_le hp hq).trans (Nat.succ_le_succ hbefore)
  | @keep n p q x _ ih =>
    have hbefore := ih ((List.prefix_append p [x]).trans hp) ((List.prefix_append q [x]).trans hq)
    exact (h.keep_le hp hq).trans hbefore
  | @substitute n p q x y _ ih =>
    have hbefore := ih ((List.prefix_append p [x]).trans hp) ((List.prefix_append q [y]).trans hq)
    exact (h.substitute_le hp hq).trans (Nat.succ_le_succ hbefore)
  | @exchange n p q x y u w hswaps _ ih =>
    have hbefore := ih ((List.prefix_append p _).trans hp) ((List.prefix_append q _).trans hq)
    exact (hexchange hswaps x y u w hp hq).trans (Nat.add_le_add_right hbefore _)

end EditEntries

end TextAnalysis
