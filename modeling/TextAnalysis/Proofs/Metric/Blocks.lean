/-
# Alignments block by block

An alignment of two texts cuts both into blocks that stand side by side: a character that is kept or substituted, one
that is inserted or deleted, or two neighbours that are swapped. The distance is the least number of blocks with
different sides. The table of it can be filled in place, with a test for a swap that reads both texts one character and
the table two rows and two columns farther back. An index outside of them stops the computation; that does not happen,
and the last entry is the distance.
-/
import Mathlib.Algebra.GroupWithZero.Nat
import TextAnalysis.Metric
import TextAnalysis.Proofs.Metric.Alignment
import TextAnalysis.Proofs.Metric.Filling

namespace TextAnalysis.Alignment

/-! ## Blocks -/

/-- What stands side by side in an alignment. -/
inductive Block where
  | keep (x : Char)
  | substitute (x y : Char)
  | insert (y : Char)
  | delete (x : Char)
  | swap (x y : Char)
  deriving DecidableEq, Repr

namespace Block

/-- The part of the first text. -/
def left : Block → Text
  | keep x => [x]
  | substitute x _ => [x]
  | insert _ => []
  | delete x => [x]
  | swap x y => [x, y]

/-- The part of the second text. -/
def right : Block → Text
  | keep x => [x]
  | substitute _ y => [y]
  | insert y => [y]
  | delete _ => []
  | swap x y => [y, x]

/-- Every block but a character that is kept costs one. -/
def cost : Block → Nat
  | keep _ => 0
  | _ => 1

end Block

/-- Blocks into which two texts are cut, in order. -/
def Cuts (blocks : List Block) (a b : Text) : Prop :=
  blocks.flatMap Block.left = a ∧ blocks.flatMap Block.right = b

/-- What blocks cost together. -/
def totalCost (blocks : List Block) : Nat :=
  (blocks.map Block.cost).sum

theorem Cuts.concat {blocks : List Block} {a b : Text} (h : Cuts blocks a b) (block : Block) :
    Cuts (blocks ++ [block]) (a ++ block.left) (b ++ block.right) := by
  obtain ⟨rfl, rfl⟩ := h
  simp [Cuts]

theorem totalCost_concat (blocks : List Block) (block : Block) :
    totalCost (blocks ++ [block]) = totalCost blocks + block.cost := by
  simp [totalCost]

/-- One more block of an alignment. -/
theorem Aligned.block {n : Nat} {a b : Text} (h : Aligned n a b) (block : Block) :
    Aligned (n + block.cost) (a ++ block.left) (b ++ block.right) := by
  cases block with
  | keep x => exact h.keep x
  | substitute x y => exact h.substitute x y
  | insert y => simpa [Block.left, Block.right, Block.cost] using h.insert y
  | delete x => simpa [Block.left, Block.right, Block.cost] using h.delete x
  | swap x y => exact h.swap x y

/-- The costs of alignments are what blocks cost into which both texts can be cut. -/
theorem aligned_iff {n : Nat} {a b : Text} : Aligned n a b ↔ ∃ blocks, Cuts blocks a b ∧ totalCost blocks = n := by
  constructor
  · -- Blocks that cut two texts cut them with one block more behind as well.
    have hconcat : ∀ {n a b} (block : Block), (∃ blocks, Cuts blocks a b ∧ totalCost blocks = n) →
        ∃ blocks, Cuts blocks (a ++ block.left) (b ++ block.right) ∧ totalCost blocks = n + block.cost := by
      rintro _ _ _ block ⟨blocks, hcuts, rfl⟩
      exact ⟨blocks ++ [block], hcuts.concat block, totalCost_concat blocks block⟩
    intro h
    induction h with
    | nil => exact ⟨[], ⟨rfl, rfl⟩, rfl⟩
    | insert y _ ih => simpa [Block.left, Block.right, Block.cost] using hconcat (.insert y) ih
    | delete x _ ih => simpa [Block.left, Block.right, Block.cost] using hconcat (.delete x) ih
    | keep x _ ih => exact hconcat (.keep x) ih
    | substitute x y _ ih => exact hconcat (.substitute x y) ih
    | swap x y _ ih => exact hconcat (.swap x y) ih
  · rintro ⟨blocks, ⟨rfl, rfl⟩, rfl⟩
    induction blocks using List.reverseRecOn with
    | nil => exact .nil
    | append_singleton blocks block ih =>
      rw [totalCost_concat]
      simpa using ih.block block

/-! ## The computation -/

open Damerau (Fault readAt subtract readEntry writeEntry startRows entry Rectangular readAt_ok subtract_ok
  exists_foldlM_range' exists_border)

/-- The entry two rows and two columns before, if the characters of a row and a column are those of the column and the
row before. -/
def readSwapped (first second : Text) (rows : List (List Nat)) (i j : Nat) : Except Fault (Option Nat) := do
  if 1 < i ∧ 1 < j then
    let a ← readAt first (← subtract i 1)
    let bBefore ← readAt second (← subtract j 2)
    if a = bBefore then
      let aBefore ← readAt first (← subtract i 2)
      let b ← readAt second (← subtract j 1)
      if aBefore = b then return some (← readEntry rows (← subtract i 2) (← subtract j 2))
      else return none
    else return none
  else return none

/-- Fills the entry in row `i` and column `j`. -/
def fillEntry (first second : Text) (i : Nat) (rows : List (List Nat)) (j : Nat) : Except Fault (List (List Nat)) := do
  let a ← readAt first (← subtract i 1)
  let b ← readAt second (← subtract j 1)
  let left ← readEntry rows i (← subtract j 1)
  let up ← readEntry rows (← subtract i 1) j
  let corner ← readEntry rows (← subtract i 1) (← subtract j 1)
  let swapped ← readSwapped first second rows i j
  writeEntry rows i j (nextEntry left up corner swapped a b)

/-- Fills row `i`. -/
def fillRow (first second : Text) (rows : List (List Nat)) (i : Nat) : Except Fault (List (List Nat)) :=
  (List.range' 1 second.length).foldlM (fillEntry first second i) rows

/-- The distance between two texts. -/
def distanceInPlace (first second : Text) : Except Fault Nat := do
  if first.length = 0 ∨ second.length = 0 then return max first.length second.length
  let rows ← startRows first.length second.length
  let filled ← (List.range' 1 first.length).foldlM (fillRow first second) rows
  readEntry filled first.length second.length

/-! ## Entries by their numbers -/

/-- The entry in a row and a column: that of the beginnings of the texts with so many characters. -/
def cellAt (first second : Text) (i j : Nat) : Nat :=
  cell (first.take i) second j

/-- Behind beginnings with `i` and `j` characters come `a` and `b`: the value for the beginnings without their last
characters, if these are the same two the other way round. -/
def swappedValue (first second : Text) (value : Nat → Nat → Nat) (i j : Nat) (a b : Char) : Option Nat :=
  if 0 < i ∧ 0 < j ∧ second[j - 1]? = some a ∧ first[i - 1]? = some b then some (value (i - 1) (j - 1)) else none

section

variable {first second : Text} {i j : Nat} {a b : Char}

theorem cellAt_zero_left (hj : j ≤ second.length) : cellAt first second 0 j = j := by
  rw [cellAt, List.take_zero, cell_nil hj]

theorem cellAt_zero_right (hi : i ≤ first.length) : cellAt first second i 0 = i := by
  rw [cellAt, cell_zero, List.length_take_of_le hi]

theorem getLast?_take_eq {l : Text} {n : Nat} (h : n ≤ l.length) :
    (l.take n).getLast? = if n = 0 then none else l[n - 1]? := by
  rw [List.getLast?_take]
  split
  · rfl
  · rw [List.getElem?_eq_getElem (by omega), Option.some_or]

/-- What is looked up is the entry two rows and two columns before. -/
theorem lookBack_take (hi : i ≤ first.length) (hj : j ≤ second.length) :
    lookBack (lastRows (first.take i) second).beforeLast (second.take j) a (first.take i).getLast? b =
      swappedValue first second (cellAt first second) i j a b := by
  unfold swappedValue
  split
  · -- The beginnings end with the two swapped characters.
    rename_i hswap
    obtain ⟨hi₀, hj₀, ha, hb⟩ := hswap
    obtain ⟨i, rfl⟩ := Nat.exists_eq_succ_of_ne_zero (Nat.ne_of_gt hi₀)
    obtain ⟨j, rfl⟩ := Nat.exists_eq_succ_of_ne_zero (Nat.ne_of_gt hj₀)
    rw [Nat.succ_sub_one] at ha hb ⊢
    have hfirst : first.take (i + 1) = first.take i ++ [b] := by rw [List.take_add_one, hb, Option.toList_some]
    have hsecond : second.take (j + 1) = second.take j ++ [a] := by rw [List.take_add_one, ha, Option.toList_some]
    have hq : second.take j ++ [a] <+: second := hsecond ▸ List.take_prefix (j + 1) second
    rw [hfirst, hsecond, lookBack_concat _ hq, List.length_take_of_le (Nat.le_of_succ_le hj)]
    rfl
  · rename_i hswap
    unfold lookBack
    rw [getLast?_take_eq hi, getLast?_take_eq hj, if_neg]
    rintro ⟨hb, ha⟩
    split at hb
    · cases hb
    · split at ha
      · cases ha
      · exact hswap ⟨by omega, by omega, hb, ha⟩

theorem cellAt_succ (ha : first[i]? = some a) (hb : second[j]? = some b) :
    cellAt first second (i + 1) (j + 1) = nextEntry (cellAt first second (i + 1) j) (cellAt first second i (j + 1))
      (cellAt first second i j) (swappedValue first second (cellAt first second) i j a b) a b := by
  obtain ⟨hi, rfl⟩ := List.getElem?_eq_some_iff.mp ha
  obtain ⟨hj, rfl⟩ := List.getElem?_eq_some_iff.mp hb
  have hq : second.take j ++ [second[j]] <+: second := by
    rw [← List.take_succ_eq_append_getElem hj]
    exact List.take_prefix _ _
  have h := cell_concat (first.take i) first[i] hq
  rw [List.length_take_of_le (Nat.le_of_lt hj), ← List.take_succ_eq_append_getElem hi,
    lookBack_take (Nat.le_of_lt hi) (Nat.le_of_lt hj)] at h
  exact h

end

/-! ## What is filled -/

/-- A table that has the entries of the distance in its first column, in all rows before `i`, and in row `i` up to
column `j`. -/
structure Filled (first second : Text) (i j : Nat) (rows : List (List Nat)) : Prop where
  rectangular : Rectangular first.length second.length rows
  entry_eq : ∀ {k l}, k ≤ first.length → l ≤ second.length → (k < i ∨ l = 0 ∨ k = i ∧ l ≤ j) →
    entry rows k l = cellAt first second k l

section

variable {first second : Text} {i j : Nat} {rows : List (List Nat)} {a b : Char}

/-- A row that is filled up to its end. -/
theorem Filled.endRow (h : Filled first second i second.length rows) : Filled first second (i + 1) 0 rows := by
  refine ⟨h.rectangular, fun hk hl hplace => h.entry_eq hk hl ?_⟩
  omega

theorem exists_filled_border (first second : Text) :
    ∃ rows, startRows first.length second.length = .ok rows ∧ Filled first second 1 0 rows := by
  obtain ⟨rows, hrun, hrows, hcolumn, hrow⟩ := exists_border first.length second.length
  refine ⟨rows, hrun, hrows, fun {k l} hk hl hplace => ?_⟩
  by_cases hl₀ : l = 0
  · subst hl₀
    rw [hcolumn k (Nat.lt_succ_of_le hk), cellAt_zero_right hk]
  · obtain rfl : k = 0 := by omega
    rw [hrow l (Nat.lt_succ_of_le hl), cellAt_zero_left hl]

/-- The test for a swap stays within the texts and the table. -/
theorem readSwapped_eq (h : Rectangular first.length second.length rows) (ha : first[i]? = some a)
    (hb : second[j]? = some b) :
    readSwapped first second rows (i + 1) (j + 1) = .ok (swappedValue first second (entry rows) i j a b) := by
  have hi : i < first.length := (List.getElem?_eq_some_iff.mp ha).1
  have hj : j < second.length := (List.getElem?_eq_some_iff.mp hb).1
  unfold readSwapped swappedValue
  by_cases hpos : 0 < i ∧ 0 < j
  · have haBefore : first[i - 1]? = some first[i - 1] := List.getElem?_eq_getElem (by omega)
    have hbBefore : second[j - 1]? = some second[j - 1] := List.getElem?_eq_getElem (by omega)
    have hone : ∀ k, subtract (k + 1) 1 = .ok k := fun k => subtract_ok (Nat.le_add_left 1 k)
    have htwo : ∀ k, 0 < k → subtract (k + 1) 2 = .ok (k - 1) := fun k hk => subtract_ok (by omega)
    rw [if_pos (by omega), hone, htwo j hpos.2, htwo i hpos.1, hone]
    simp only [ok_bind, readAt_ok ha, readAt_ok hbBefore, readAt_ok haBefore, readAt_ok hb, hpos.1, hpos.2, true_and,
      hbBefore, haBefore, Option.some.injEq]
    by_cases hab : a = second[j - 1]
    · by_cases hba : first[i - 1] = b
      · rw [if_pos hab, if_pos hba, if_pos ⟨hab.symm, hba⟩, h.readEntry_ok (by omega) (by omega)]
        rfl
      · rw [if_pos hab, if_neg hba, if_neg fun hswap => hba hswap.2]
        rfl
    · rw [if_neg hab, if_neg fun hswap => hab hswap.1.symm]
      rfl
  · rw [if_neg (by omega), if_neg fun hswap => hpos ⟨hswap.1, hswap.2.1⟩]
    rfl

/-- Filling an entry succeeds, and what is filled reaches one column farther. -/
theorem exists_fillEntry (h : Filled first second (i + 1) j rows) (hi : i < first.length) (hj : j < second.length) :
    ∃ rows', fillEntry first second (i + 1) rows (j + 1) = .ok rows' ∧ Filled first second (i + 1) (j + 1) rows' := by
  have ha : first[i]? = some first[i] := List.getElem?_eq_getElem hi
  have hb : second[j]? = some second[j] := List.getElem?_eq_getElem hj
  have hone : ∀ k, subtract (k + 1) 1 = .ok k := fun k => subtract_ok (Nat.le_add_left 1 k)
  -- What is looked up for a swap lies in a row that is filled already.
  have hswapped : swappedValue first second (entry rows) i j first[i] second[j] =
      swappedValue first second (cellAt first second) i j first[i] second[j] := by
    unfold swappedValue
    rw [h.entry_eq (by omega) (by omega) (by omega)]
  obtain ⟨rows', hwrite, hrows, hothers⟩ := h.rectangular.writeEntry_ok (i := i + 1) (j := j + 1) hi hj
    (cellAt first second (i + 1) (j + 1))
  refine ⟨rows', ?_, hrows, fun {k l} hk hl hplace => ?_⟩
  · unfold fillEntry
    simp only [hone, ok_bind, readAt_ok ha, readAt_ok hb]
    rw [h.rectangular.readEntry_ok hi (Nat.le_of_lt hj), h.rectangular.readEntry_ok (Nat.le_of_lt hi) hj,
      h.rectangular.readEntry_ok (Nat.le_of_lt hi) (Nat.le_of_lt hj), readSwapped_eq h.rectangular ha hb, hswapped,
      h.entry_eq hi (Nat.le_of_lt hj) (by omega), h.entry_eq (Nat.le_of_lt hi) hj (by omega),
      h.entry_eq (Nat.le_of_lt hi) (Nat.le_of_lt hj) (by omega)]
    simp only [ok_bind]
    rw [← cellAt_succ ha hb]
    exact hwrite
  · rw [hothers]
    split
    · rename_i hnew
      rw [hnew.1, hnew.2]
    · exact h.entry_eq hk hl (by omega)

/-- Filling a row succeeds, and what is filled reaches one row farther. -/
theorem exists_fillRow (h : Filled first second (i + 1) 0 rows) (hi : i < first.length) :
    ∃ rows', fillRow first second rows (i + 1) = .ok rows' ∧ Filled first second (i + 2) 0 rows' := by
  obtain ⟨rows', hrun, hfilled⟩ : ∃ rows', fillRow first second rows (i + 1) = .ok rows' ∧
      Filled first second (i + 1) second.length rows' :=
    exists_foldlM_range' _ (fun j rows => Filled first second (i + 1) j rows) h
      fun j rows hj hfilled => exists_fillEntry hfilled hi hj
  exact ⟨rows', hrun, hfilled.endRow⟩

end

/-- All indices lie within the texts and the table, no subtraction goes below zero, and the result is the distance. -/
theorem distanceInPlace_eq (first second : Text) : distanceInPlace first second = .ok (distance first second) := by
  have hdistance : distance first second = cellAt first second first.length second.length := by
    rw [distance_eq_cell, cellAt, List.take_length]
  rw [hdistance]
  by_cases hempty : first.length = 0 ∨ second.length = 0
  · rw [distanceInPlace, if_pos hempty]
    rcases hempty with hempty | hempty
    · rw [hempty, cellAt_zero_left (Nat.le_refl _), Nat.zero_max]
      rfl
    · rw [hempty, cellAt_zero_right (Nat.le_refl _), Nat.max_zero]
      rfl
  · obtain ⟨rows, hstart, hrows⟩ := exists_filled_border first second
    obtain ⟨filled, hrun, hfilled⟩ : ∃ filled,
        (List.range' 1 first.length).foldlM (fillRow first second) rows = .ok filled ∧
          Filled first second (first.length + 1) 0 filled :=
      exists_foldlM_range' _ (fun i rows => Filled first second (i + 1) 0 rows) hrows
        fun i rows hi hfilled => exists_fillRow hfilled hi
    rw [distanceInPlace, if_neg hempty, hstart, ok_bind, hrun, ok_bind,
      hfilled.rectangular.readEntry_ok (Nat.le_refl _) (Nat.le_refl _),
      hfilled.entry_eq (Nat.le_refl _) (Nat.le_refl _) (by omega)]

/-! ## The distance -/

/-- **Optimal string alignment.** The distance is the least cost of blocks into which both texts can be cut, a swap of
two neighbours being a block of its own. Filling its table in place reads and writes no place outside of the texts and
the table. -/
theorem evaluate_leastBlocks (a b : Text) :
    ∃ n, Metric.alignment.evaluate a b = .ok (.count n) ∧
      IsLeast {cost | ∃ blocks, Cuts blocks a b ∧ totalCost blocks = cost} n ∧ distanceInPlace a b = .ok n := by
  refine ⟨distance a b, rfl, ?_, distanceInPlace_eq a b⟩
  simp only [← aligned_iff]
  exact isLeast_distance a b

/-- Two equal characters swapped with each other cost no more than they do when both are kept. -/
example : distance ['x', 'x'] ['x', 'x'] = 0 ∧ totalCost [.swap 'x' 'x'] = 1 := by
  decide

end TextAnalysis.Alignment
