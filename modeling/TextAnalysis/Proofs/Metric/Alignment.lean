/-
# The table of the optimal string alignment

What the entries of the table have to do with alignments, in which a swap is a block of two neighbours and no character
stands in two blocks: an entry is the cost of an alignment of the first text with the beginning of the second one that
it stands for, and no alignment of them costs less.
-/
import Mathlib.Data.List.GetD
import Mathlib.Data.List.Induction
import Mathlib.Data.Nat.Basic
import Mathlib.Order.Basic
import TextAnalysis.Metric.Alignment
import TextAnalysis.Proofs.Metric.Tables

namespace TextAnalysis.Alignment

/-! ## Alignments -/

/-- Two texts cut into blocks that stand side by side, with the number of blocks whose sides differ, built from left to
right. -/
inductive Aligned : Nat → Text → Text → Prop
  | nil : Aligned 0 [] []
  | insert {n : Nat} {a b : Text} (y : Char) (h : Aligned n a b) : Aligned (n + 1) a (b ++ [y])
  | delete {n : Nat} {a b : Text} (x : Char) (h : Aligned n a b) : Aligned (n + 1) (a ++ [x]) b
  | keep {n : Nat} {a b : Text} (x : Char) (h : Aligned n a b) : Aligned n (a ++ [x]) (b ++ [x])
  | substitute {n : Nat} {a b : Text} (x y : Char) (h : Aligned n a b) : Aligned (n + 1) (a ++ [x]) (b ++ [y])
  | swap {n : Nat} {a b : Text} (x y : Char) (h : Aligned n a b) : Aligned (n + 1) (a ++ [x, y]) (b ++ [y, x])

namespace Aligned

variable {n : Nat} {a b : Text}

theorem insertAll (w : Text) : Aligned w.length [] w := by
  induction w using List.reverseRecOn with
  | nil => exact .nil
  | append_singleton w c ih => simpa using ih.insert c

theorem symm (h : Aligned n a b) : Aligned n b a := by
  induction h with
  | nil => exact .nil
  | insert y _ ih => exact ih.delete y
  | delete x _ ih => exact ih.insert x
  | keep x _ ih => exact ih.keep x
  | substitute x y _ ih => exact ih.substitute y x
  | swap x y _ ih => exact ih.swap y x

theorem deleteAll (u : Text) : Aligned u.length u [] :=
  (insertAll u).symm

/-- Any two characters stand side by side, at no cost if they are the same. -/
theorem pair (h : Aligned n a b) (x y : Char) : Aligned (n + if x = y then 0 else 1) (a ++ [x]) (b ++ [y]) := by
  split
  · rename_i hxy
    rw [hxy]
    exact h.keep y
  · exact h.substitute x y

/-- Swapping a character with itself changes nothing. -/
theorem pair_swapped (h : Aligned n a b) (x y : Char) :
    Aligned (n + if y = x then 0 else 1) (a ++ [x, y]) (b ++ [y, x]) := by
  split
  · rename_i hxy
    rw [hxy]
    simpa using (h.keep x).keep x
  · exact h.swap x y

/-- An alignment is a layout whose swaps have nothing between the characters. -/
theorem layout (h : Aligned n a b) : Layout true n a b := by
  induction h with
  | nil => exact .nil
  | insert y _ ih => exact ih.insert y
  | delete x _ ih => exact ih.delete x
  | keep x _ ih => exact ih.keep x
  | substitute x y _ ih => exact ih.substitute x y
  | swap x y _ ih => exact ih.exchange x y [] [] rfl

/-- A layout without swaps is an alignment. -/
theorem of_layout (h : Layout false n a b) : Aligned n a b := by
  induction h with
  | nil => exact .nil
  | insert y _ ih => exact ih.insert y
  | delete x _ ih => exact ih.delete x
  | keep x _ ih => exact ih.keep x
  | substitute x y _ ih => exact ih.substitute x y
  | exchange _ _ _ _ hswaps => cases hswaps

end Aligned

/-! ## Rows -/

/-- An entry from the one before it, the one above it, the one above that one before and, where the last two characters
of both sides are swapped, the one two rows and two columns before. -/
def nextEntry (left up corner : Nat) (swapped : Option Nat) (a b : Char) : Nat :=
  let cost := if a = b then 0 else 1
  let edited := min (min (left + 1) (up + 1)) (corner + cost)
  swapped.elim edited fun n => min edited (n + cost)

section

variable {left up corner : Nat} {swapped : Option Nat} {a b : Char}

/-- What holds of all numbers of which an entry is the least holds of the entry. -/
theorem nextEntry_of {p : Nat → Prop} (hleft : p (left + 1)) (hup : p (up + 1))
    (hcorner : p (corner + if a = b then 0 else 1))
    (hswap : ∀ n, swapped = some n → p (n + if a = b then 0 else 1)) :
    p (nextEntry left up corner swapped a b) := by
  have hedited := min_rec' p (min_rec' p hleft hup) hcorner
  unfold nextEntry
  cases swapped with
  | none => exact hedited
  | some n => exact min_rec' p hedited (hswap n rfl)

theorem nextEntry_le_edited : nextEntry left up corner swapped a b ≤
    min (min (left + 1) (up + 1)) (corner + if a = b then 0 else 1) := by
  unfold nextEntry
  cases swapped with
  | none => exact Nat.le_refl _
  | some n => exact Nat.min_le_left _ _

theorem nextEntry_le_swap (n : Nat) : nextEntry left up corner (some n) a b ≤ n + if a = b then 0 else 1 :=
  Nat.min_le_right _ _

end

/-- The entry two rows and two columns before, from the row there, if the last two characters of both sides are swapped.
`passed` is the second text in front of the last character of that side. -/
def lookBack (row : List Nat) (passed : Text) (a : Char) (aBefore : Option Char) (b : Char) : Option Nat :=
  if passed.getLast? = some a ∧ aBefore = some b then row[passed.length - 1]? else none

theorem length_rowFrom (a : Char) (aBefore : Option Char) (left : Nat) (bBefore : Option Char) {above : List Nat}
    (corners : List Nat) {second : Text} (h : above.length = second.length + 1) :
    (rowFrom a aBefore left bBefore above corners second).length = second.length := by
  induction second generalizing above left bBefore corners with
  | nil =>
    match above, h with
    | [corner], _ => rfl
  | cons b second ih =>
    match above, h with
    | corner :: up :: above, h =>
      simp only [rowFrom, List.length_cons, Nat.add_right_cancel_iff]
      exact ih _ _ _ (by simpa using h)

/-- One more entry of a row. `passed` is the text in front of its column. -/
theorem rowFrom_cons (a : Char) (aBefore : Option Char) (left : Nat) (passed : Text) (corner up : Nat)
    (above row : List Nat) (c : Char) (second : Text) {here : Nat}
    (hhere : here = nextEntry left up corner (lookBack row passed a aBefore c) a c) :
    rowFrom a aBefore left passed.getLast? (corner :: up :: above) (row.drop (passed.length - 1)) (c :: second) =
      here :: rowFrom a aBefore here (passed ++ [c]).getLast? (up :: above)
        (row.drop ((passed ++ [c]).length - 1)) second := by
  -- In front of the first column there is nothing to look back to, so only from the second one on the row advances.
  have hcorners : (if passed.getLast?.isSome then (row.drop (passed.length - 1)).tail
      else row.drop (passed.length - 1)) = row.drop ((passed ++ [c]).length - 1) := by
    rw [List.length_append, List.length_singleton, Nat.add_sub_cancel]
    cases passed with
    | nil => rfl
    | cons d passed => simp [List.tail_drop]
  simp only [rowFrom]
  rw [hcorners, hhere, nextEntry, lookBack, ← List.head?_drop, List.getLast?_concat]
  cases row.drop (passed.length - 1) with
  | nil => simp only [List.head?_nil, ite_self, Option.elim_none]
  | cons swapped rest =>
    by_cases hswap : passed.getLast? = some a ∧ aBefore = some c
    · simp only [if_pos hswap, List.head?_cons, Option.elim_some]
    · simp only [if_neg hswap, Option.elim_none]

/-- Every entry of a row but the first comes from those before it and above. -/
theorem getD_rowFrom (a : Char) (aBefore : Option Char) (left : Nat) (passed : Text) {above : List Nat}
    (before : List Nat) {second : Text} (h : above.length = second.length + 1) {k : Nat} {b : Char}
    (hb : second[k]? = some b) {row : List Nat}
    (hrow : row = left :: rowFrom a aBefore left passed.getLast? above (before.drop (passed.length - 1)) second) :
    row.getD (k + 1) 0 = nextEntry (row.getD k 0) (above.getD (k + 1) 0) (above.getD k 0)
      (lookBack before (passed ++ second.take k) a aBefore b) a b := by
  induction second generalizing above k left passed row with
  | nil => cases hb
  | cons c second ih =>
    match above, h with
    | corner :: up :: above, h =>
      rw [rowFrom_cons _ _ _ _ _ _ _ _ _ _ rfl] at hrow
      cases k with
      | zero =>
        obtain rfl : c = b := by simpa using hb
        rw [hrow]
        simp
      | succ k =>
        have habove : (up :: above).length = second.length + 1 := by simpa using h
        -- The entries behind this one are those of a row that starts with it.
        have hrest := ih _ (passed ++ [c]) habove hb (congrArg List.tail hrow)
        rw [List.append_assoc, List.singleton_append, ← List.take_succ_cons] at hrest
        rw [hrow] at hrest ⊢
        exact hrest

/-! ## The table -/

/-- The last rows of the table of two texts. -/
def lastRows (first second : Text) : Rows :=
  first.foldl (nextRow second) ⟨List.range (second.length + 1), [], none⟩

theorem lastRows_concat (first : Text) (a : Char) (second : Text) :
    lastRows (first ++ [a]) second = nextRow second (lastRows first second) a := by
  unfold lastRows
  rw [List.foldl_append, List.foldl_cons, List.foldl_nil]

theorem character_lastRows (first second : Text) : (lastRows first second).character = first.getLast? := by
  induction first using List.reverseRecOn with
  | nil => rfl
  | append_singleton first a => rw [lastRows_concat, List.getLast?_concat, nextRow]

theorem length_last (first second : Text) : (lastRows first second).last.length = second.length + 1 := by
  induction first using List.reverseRecOn with
  | nil => exact List.length_range
  | append_singleton first a ih => rw [lastRows_concat, nextRow, List.length_cons, length_rowFrom _ _ _ _ _ ih]

/-- The entry of the last row for a beginning of the second text with a given length. -/
def cell (first second : Text) (j : Nat) : Nat :=
  (lastRows first second).last.getD j 0

theorem cell_nil {second : Text} {j : Nat} (hj : j ≤ second.length) : cell [] second j = j :=
  getD_range hj

theorem cell_concat_zero (first : Text) (a : Char) (second : Text) :
    cell (first ++ [a]) second 0 = cell first second 0 + 1 := by
  unfold cell
  rw [lastRows_concat, nextRow, List.getD_cons_zero]
  cases (lastRows first second).last <;> rfl

theorem cell_zero (first second : Text) : cell first second 0 = first.length := by
  induction first using List.reverseRecOn with
  | nil => exact cell_nil (Nat.zero_le _)
  | append_singleton first a ih => rw [cell_concat_zero, ih, List.length_append, List.length_singleton]

/-- Every other entry comes from its neighbours and maybe from the one two rows and two columns before. -/
theorem cell_concat (first : Text) (a : Char) {second q : Text} {b : Char} (hq : q ++ [b] <+: second) :
    cell (first ++ [a]) second (q.length + 1) = nextEntry (cell (first ++ [a]) second q.length)
      (cell first second (q.length + 1)) (cell first second q.length)
      (lookBack (lastRows first second).beforeLast q a first.getLast? b) a b := by
  obtain ⟨rest, rfl⟩ := hq
  have hb : (q ++ [b] ++ rest)[q.length]? = some b := by simp
  have hrow := congrArg Rows.last (lastRows_concat first a (q ++ [b] ++ rest))
  have h := getD_rowFrom a first.getLast? _ [] _ (length_last first _) hb
    (hrow.trans (by rw [nextRow, character_lastRows]; rfl))
  have htake : (q ++ [b] ++ rest).take q.length = q := by simp
  rwa [List.nil_append, htake] at h

/-! ## Swaps -/

section

variable {first second q : Text} {a b : Char}

/-- An entry that is looked up stands for the texts without the swapped characters. -/
theorem lookBack_eq_some {n : Nat} (hq : q <+: second)
    (h : lookBack (lastRows first second).beforeLast q a first.getLast? b = some n) :
    ∃ p r, first = p ++ [b] ∧ q = r ++ [a] ∧ n = cell p second r.length := by
  unfold lookBack at h
  split at h
  · rename_i hswap
    obtain ⟨p, rfl⟩ := List.getLast?_eq_some_iff.1 hswap.2
    obtain ⟨r, rfl⟩ := List.getLast?_eq_some_iff.1 hswap.1
    refine ⟨p, r, rfl, rfl, ?_⟩
    rw [lastRows_concat, nextRow, List.length_append, List.length_singleton, Nat.add_sub_cancel] at h
    rw [cell, List.getD_eq_getElem?_getD, h, Option.getD_some]
  · cases h

/-- Where two neighbours are swapped, the entry for the texts without them is looked up. -/
theorem lookBack_concat (p : Text) (hq : q ++ [a] <+: second) :
    lookBack (lastRows (p ++ [b]) second).beforeLast (q ++ [a]) a (p ++ [b]).getLast? b =
      some (cell p second q.length) := by
  have hlength := hq.length_le
  rw [List.length_append, List.length_singleton] at hlength
  have hlt : q.length < (lastRows p second).last.length := by
    rw [length_last]
    omega
  rw [lookBack, if_pos ⟨List.getLast?_concat, List.getLast?_concat⟩, lastRows_concat, nextRow, List.length_append,
    List.length_singleton, Nat.add_sub_cancel, cell, List.getD_eq_getElem _ _ hlt]
  exact List.getElem?_eq_getElem hlt

end

/-! ## Entries as costs -/

/-- An entry is the cost of an alignment of the texts that it stands for. -/
theorem aligned_cell (first : Text) {second q : Text} (hq : q <+: second) :
    Aligned (cell first second q.length) first q := by
  refine beginnings_induction (motive := fun p q => Aligned (cell p second q.length) p q)
    (fun q hq => ?top) (fun p _ => ?side) (fun p q a b hp hq hrows hleft => ?inner) (List.prefix_refl first) hq
  case top =>
    rw [cell_nil hq.length_le]
    exact .insertAll q
  case side =>
    rw [List.length_nil, cell_zero]
    exact .deleteAll p
  case inner =>
    have hpBefore := (List.prefix_append p [a]).trans hp
    have hqBefore := (List.prefix_append q [b]).trans hq
    have hup := hrows p _ (Nat.le_refl _) hpBefore hq
    have hcorner := hrows p q (Nat.le_refl _) hpBefore hqBefore
    rw [List.length_append, List.length_singleton] at hup ⊢
    rw [cell_concat p a hq]
    refine nextEntry_of (p := fun n => Aligned n _ _) (hleft.insert b) (hup.delete a) (hcorner.pair a b) fun n hn => ?_
    -- A swap is looked up where the last characters are swapped, two rows and two columns before.
    obtain ⟨s, t, rfl, rfl, rfl⟩ := lookBack_eq_some hqBefore hn
    have hbefore := hrows s t (by simp) ((List.prefix_append s [b]).trans hpBefore)
      ((List.prefix_append t [a]).trans hqBefore)
    rw [List.append_assoc, List.append_assoc]
    exact hbefore.pair_swapped b a

/-! ## Entries as least costs -/

theorem editEntries_cell (first second : Text) : EditEntries first second fun p q => cell p second q.length where
  top hq := cell_nil hq.length_le
  side {p} _ := cell_zero p second
  inner_le {p q a b} _ hq := by
    rw [List.length_append, List.length_singleton, cell_concat p a hq]
    exact nextEntry_le_edited

theorem cell_swap_le {first second q : Text} (x y : Char) (hq : q ++ [y, x] <+: second) :
    cell (first ++ [x, y]) second (q ++ [y, x]).length ≤ cell first second q.length + 1 := by
  have hsplit : q ++ [y, x] = q ++ [y] ++ [x] := by simp
  have hsplit' : first ++ [x, y] = first ++ [x] ++ [y] := by simp
  rw [hsplit] at hq ⊢
  rw [hsplit', List.length_append, List.length_singleton, cell_concat _ y hq,
    lookBack_concat first ((List.prefix_append _ [x]).trans hq)]
  refine (nextEntry_le_swap _).trans (Nat.add_le_add_left ?_ _)
  split <;> omega

/-- No alignment of two texts costs less than the entry that stands for them. -/
theorem cell_le {first second q : Text} {n : Nat} (h : Aligned n first q) (hq : q <+: second) :
    cell first second q.length ≤ n := by
  have hentries (first : Text) := editEntries_cell first second
  induction h with
  | nil => exact Nat.le_of_eq (cell_nil (Nat.zero_le second.length))
  | @insert n first q y _ ih =>
    have hbefore := ih ((List.prefix_append q [y]).trans hq)
    exact ((hentries first).insert_le (List.prefix_refl _) hq).trans (Nat.succ_le_succ hbefore)
  | @delete n first q x _ ih =>
    exact ((hentries _).delete_le (List.prefix_refl _) hq).trans (Nat.succ_le_succ (ih hq))
  | @keep n first q x _ ih =>
    have hbefore := ih ((List.prefix_append q [x]).trans hq)
    exact ((hentries _).keep_le (List.prefix_refl _) hq).trans hbefore
  | @substitute n first q x y _ ih =>
    have hbefore := ih ((List.prefix_append q [y]).trans hq)
    exact ((hentries _).substitute_le (List.prefix_refl _) hq).trans (Nat.succ_le_succ hbefore)
  | @swap n first q x y _ ih =>
    have hbefore := ih ((List.prefix_append q [y, x]).trans hq)
    exact (cell_swap_le x y hq).trans (Nat.succ_le_succ hbefore)

/-! ## The distance -/

/-- The distance is the last entry. -/
theorem distance_eq_cell (first second : Text) : distance first second = cell first second second.length := by
  show (lastRows first second).last.getLastD 0 = _
  rw [List.getLastD_eq_getLast?, List.getLast?_eq_getElem?, length_last]
  rfl

/-- The distance is the least cost of an alignment. -/
theorem isLeast_distance (a b : Text) : IsLeast {n | Aligned n a b} (distance a b) := by
  rw [distance_eq_cell]
  exact ⟨aligned_cell a (List.prefix_refl b), fun n h => cell_le h (List.prefix_refl b)⟩

theorem distance_comm (a b : Text) : distance a b = distance b a := by
  have hle : ∀ a b, distance a b ≤ distance b a := fun a b => (isLeast_distance a b).2 (isLeast_distance b a).1.symm
  exact Nat.le_antisymm (hle a b) (hle b a)

theorem distance_self (a : Text) : distance a a = 0 :=
  Nat.le_zero.1 ((isLeast_distance a a).2 (.of_layout (.refl a)))

end TextAnalysis.Alignment
