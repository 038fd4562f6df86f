/-
# The table of the Damerau-Levenshtein distance filled in place

The distance computed in a table of fixed size that is overwritten entry by entry, with a map from the characters of the
first text to the rows in which they were met last. An index outside of the table or of a text stops the computation,
and so does a subtraction whose result would be negative. Neither happens, and the result is the distance.
-/
import Mathlib.Data.List.GetD
import Std.Data.HashMap.Lemmas
import TextAnalysis.Metric.Alignment
import TextAnalysis.Proofs.Metric.Damerau
import TextAnalysis.Proofs.Outcomes

namespace TextAnalysis.Damerau

/-! ## Steps that can fail -/

/-- Why the computation stops. -/
inductive Fault where
  | outOfBounds
  | negative
  deriving DecidableEq

/-- What stands at a place of a list. -/
def readAt {α : Type} (l : List α) (i : Nat) : Except Fault α :=
  match l[i]? with
  | some x => .ok x
  | none => .error .outOfBounds

/-- A difference of numbers, which must not be negative. -/
def subtract (x y : Nat) : Except Fault Nat :=
  if y ≤ x then .ok (x - y) else .error .negative

/-- The entry in a row and a column. -/
def readEntry (rows : List (List Nat)) (i j : Nat) : Except Fault Nat := do
  readAt (← readAt rows i) j

/-- Overwrites the entry in a row and a column. -/
def writeEntry (rows : List (List Nat)) (i j value : Nat) : Except Fault (List (List Nat)) := do
  let row ← readAt rows i
  if j < row.length then return rows.set i (row.set j value)
  throw .outOfBounds

/-! ## The computation -/

/-- Characters with the rows in which they were met last. -/
abbrev LastRows := @Std.HashMap Char Nat instBEqOfDecidableEq instHashableChar

/-- A table that is filled up to some row. -/
structure Filling where
  rows : List (List Nat)
  lastRow : LastRows

/-- A table with a row that is filled up to some column. -/
structure RowFilling where
  rows : List (List Nat)
  /-- The last column whose character is that of the row, and zero if there is none. -/
  matched : Nat

/-- The table with its first column and its first row, and zeros elsewhere. -/
def startRows (m n : Nat) : Except Fault (List (List Nat)) := do
  let zeros := List.replicate (m + 1) (List.replicate (n + 1) 0)
  let rows ← (List.range' 0 (m + 1)).foldlM (fun rows i => writeEntry rows i 0 i) zeros
  (List.range' 0 (n + 1)).foldlM (fun rows j => writeEntry rows 0 j j) rows

/-- Fills the entry in row `i` and column `j`. -/
def fillEntry (first second : Text) (lastRow : LastRows) (i : Nat) (f : RowFilling) (j : Nat) :
    Except Fault RowFilling := do
  let a ← readAt first (← subtract i 1)
  let b ← readAt second (← subtract j 1)
  let i₁ := lastRow.getD b 0
  let j₁ := f.matched
  let left ← readEntry f.rows i (← subtract j 1)
  let up ← readEntry f.rows (← subtract i 1) j
  let corner ← readEntry f.rows (← subtract i 1) (← subtract j 1)
  let edited := min (min (left + 1) (up + 1)) (corner + if a = b then 0 else 1)
  let mut here := edited
  if 0 < i₁ ∧ 0 < j₁ then
    let before ← readEntry f.rows (← subtract i₁ 1) (← subtract j₁ 1)
    let deleted ← subtract (← subtract i i₁) 1
    let inserted ← subtract (← subtract j j₁) 1
    here := min edited (before + deleted + inserted + 1)
  return { rows := ← writeEntry f.rows i j here, matched := if a = b then j else j₁ }

/-- Fills row `i`. -/
def fillRow (first second : Text) (f : Filling) (i : Nat) : Except Fault Filling := do
  let filled ← (List.range' 1 second.length).foldlM (fillEntry first second f.lastRow i) ⟨f.rows, 0⟩
  let a ← readAt first (← subtract i 1)
  return { rows := filled.rows, lastRow := f.lastRow.insert a i }

/-- The distance between two texts. -/
def distanceInPlace (first second : Text) : Except Fault Nat := do
  if first.length = 0 ∨ second.length = 0 then return max first.length second.length
  let rows ← startRows first.length second.length
  let filled ← (List.range' 1 first.length).foldlM (fillRow first second) ⟨rows, ∅⟩
  readEntry filled.rows first.length second.length

/-! ## Steps that succeed -/

theorem readAt_ok {α : Type} {l : List α} {i : Nat} {x : α} (h : l[i]? = some x) : readAt l i = .ok x := by
  rw [readAt, h]

theorem subtract_ok {x y : Nat} (h : y ≤ x) : subtract x y = .ok (x - y) :=
  if_pos h

/-- A table with `m + 1` rows of `n + 1` entries. -/
structure Rectangular (m n : Nat) (rows : List (List Nat)) : Prop where
  height : rows.length = m + 1
  width : ∀ row ∈ rows, row.length = n + 1

section

variable {m n : Nat} {rows : List (List Nat)}

theorem Rectangular.exists_row (h : Rectangular m n rows) {i : Nat} (hi : i ≤ m) :
    ∃ row, rows[i]? = some row ∧ row.length = n + 1 := by
  have hlt : i < rows.length := by
    rw [h.height]
    exact Nat.lt_succ_of_le hi
  exact ⟨rows[i], List.getElem?_eq_getElem hlt, h.width _ (List.getElem_mem hlt)⟩

/-- Entries within the bounds of a table can be read. -/
theorem Rectangular.readEntry_ok (h : Rectangular m n rows) {i j : Nat} (hi : i ≤ m) (hj : j ≤ n) :
    readEntry rows i j = .ok (entry rows i j) := by
  obtain ⟨row, hrow, hlength⟩ := h.exists_row hi
  have hj : j < row.length := hlength ▸ Nat.lt_succ_of_le hj
  have hentry : entry rows i j = row[j] := by
    have hrowD : rows.getD i [] = row := by rw [List.getD_eq_getElem?_getD, hrow, Option.getD_some]
    rw [entry, hrowD, List.getD_eq_getElem _ _ hj]
  rw [readEntry, readAt_ok hrow, ok_bind, hentry]
  exact readAt_ok (List.getElem?_eq_getElem hj)

/-- Entries within the bounds of a table can be overwritten, and the others stay. -/
theorem Rectangular.writeEntry_ok (h : Rectangular m n rows) {i j : Nat} (hi : i ≤ m) (hj : j ≤ n) (value : Nat) :
    ∃ rows', writeEntry rows i j value = .ok rows' ∧ Rectangular m n rows' ∧
      ∀ k l, entry rows' k l = if k = i ∧ l = j then value else entry rows k l := by
  obtain ⟨row, hrow, hlength⟩ := h.exists_row hi
  have hj : j < row.length := hlength ▸ Nat.lt_succ_of_le hj
  have hi : i < rows.length := (List.getElem?_eq_some_iff.mp hrow).1
  refine ⟨rows.set i (row.set j value), ?_, ⟨?_, ?_⟩, fun k l => ?_⟩
  · rw [writeEntry, readAt_ok hrow, ok_bind, if_pos hj]
    rfl
  · rw [List.length_set, h.height]
  · intro other hother
    rcases List.mem_or_eq_of_mem_set hother with hmem | rfl
    · exact h.width other hmem
    · rw [List.length_set, hlength]
  · simp only [entry, List.getD_eq_getElem?_getD, List.getElem?_set]
    by_cases hk : i = k
    · subst hk
      by_cases hl : j = l
      · subst hl
        simp [hi, hj]
      · simp only [if_true, if_pos hi, if_neg hl, Option.getD_some, hrow, List.getElem?_set, and_false,
          if_false, Ne.symm hl]
    · simp [hk, Ne.symm hk]

end

/-- A loop over successive numbers succeeds if every step does. `p` holds of what the loop has after as many steps as
its first argument says. -/
theorem exists_foldlM_range' {σ : Type} (f : σ → Nat → Except Fault σ) {start count : Nat} {s : σ}
    (p : Nat → σ → Prop) (hstart : p 0 s)
    (hstep : ∀ k s, k < count → p k s → ∃ s', f s (k + start) = .ok s' ∧ p (k + 1) s') :
    ∃ s', (List.range' start count).foldlM f s = .ok s' ∧ p count s' := by
  induction count with
  | zero => exact ⟨s, rfl, hstart⟩
  | succ count ih =>
    obtain ⟨s₁, hrun, hp⟩ := ih fun k s hk => hstep k s (Nat.lt_succ_of_lt hk)
    obtain ⟨s₂, hlast, hp⟩ := hstep count s₁ (Nat.lt_succ_self count) hp
    refine ⟨s₂, ?_, hp⟩
    rw [List.range'_concat, List.foldlM_append, hrun, Nat.one_mul, Nat.add_comm start]
    simp only [ok_bind, List.foldlM_cons, hlast, List.foldlM_nil]
    rfl

/-! ## What is filled -/

/-- A table that has the entries of the distance in its first column, in all rows before `i`, and in row `i` up to
column `j`. -/
structure Filled (first second : Text) (i j : Nat) (rows : List (List Nat)) : Prop where
  rectangular : Rectangular first.length second.length rows
  entry_eq : ∀ {k l}, k ≤ first.length → l ≤ second.length → (k < i ∨ l = 0 ∨ k = i ∧ l ≤ j) →
    entry rows k l = cell first second k l

section

variable {first second : Text} {i j : Nat} {rows : List (List Nat)}

/-- A row that is filled up to its end. -/
theorem Filled.endRow (h : Filled first second i second.length rows) : Filled first second (i + 1) 0 rows := by
  refine ⟨h.rectangular, fun hk hl hplace => h.entry_eq hk hl ?_⟩
  omega

end

/-- The first loop fills the first column. -/
theorem exists_firstColumn {m n : Nat} {rows : List (List Nat)} (h : Rectangular m n rows) :
    ∃ rows', (List.range' 0 (m + 1)).foldlM (fun rows i => writeEntry rows i 0 i) rows = .ok rows' ∧
      Rectangular m n rows' ∧ ∀ i < m + 1, entry rows' i 0 = i := by
  refine exists_foldlM_range' _ (fun k rows => Rectangular m n rows ∧ ∀ i < k, entry rows i 0 = i) ⟨h, by simp⟩ ?_
  intro k rows hk ⟨hrows, hbefore⟩
  obtain ⟨rows', hwrite, hrows', hentry⟩ := hrows.writeEntry_ok (Nat.le_of_lt_succ hk) (Nat.zero_le n) k
  refine ⟨rows', hwrite, hrows', fun i hi => ?_⟩
  rw [hentry]
  split
  · omega
  · exact hbefore i (by omega)

/-- The second loop fills the first row, and the first column stays. -/
theorem exists_firstRow {m n : Nat} {rows : List (List Nat)} (h : Rectangular m n rows)
    (hcolumn : ∀ i < m + 1, entry rows i 0 = i) :
    ∃ rows', (List.range' 0 (n + 1)).foldlM (fun rows j => writeEntry rows 0 j j) rows = .ok rows' ∧
      Rectangular m n rows' ∧ (∀ i < m + 1, entry rows' i 0 = i) ∧ ∀ j < n + 1, entry rows' 0 j = j := by
  refine exists_foldlM_range' _ (fun k rows => Rectangular m n rows ∧ (∀ i < m + 1, entry rows i 0 = i) ∧
    ∀ j < k, entry rows 0 j = j) ⟨h, hcolumn, by simp⟩ ?_
  intro k rows hk ⟨hrows, hcolumn, hbefore⟩
  obtain ⟨rows', hwrite, hrows', hentry⟩ := hrows.writeEntry_ok (Nat.zero_le m) (Nat.le_of_lt_succ hk) k
  refine ⟨rows', hwrite, hrows', fun i hi => ?_, fun j hj => ?_⟩
  · rw [hentry]
    split
    · omega
    · exact hcolumn i hi
  · rw [hentry]
    split
    · omega
    · exact hbefore j (by omega)

/-- Both loops together fill the first column and the first row with their numbers. -/
theorem exists_border (m n : Nat) :
    ∃ rows, startRows m n = .ok rows ∧ Rectangular m n rows ∧ (∀ i < m + 1, entry rows i 0 = i) ∧
      ∀ j < n + 1, entry rows 0 j = j := by
  have hzeros : Rectangular m n (List.replicate (m + 1) (List.replicate (n + 1) 0)) := by
    refine ⟨List.length_replicate, fun row hrow => ?_⟩
    rw [List.eq_of_mem_replicate hrow, List.length_replicate]
  obtain ⟨rows₁, hrun₁, hrows₁, hcolumn₁⟩ := exists_firstColumn hzeros
  obtain ⟨rows₂, hrun₂, hrows₂, hcolumn, hrow⟩ := exists_firstRow hrows₁ hcolumn₁
  exact ⟨rows₂, by rw [startRows, hrun₁, ok_bind, hrun₂], hrows₂, hcolumn, hrow⟩

theorem exists_startRows (first second : Text) :
    ∃ rows, startRows first.length second.length = .ok rows ∧ Filled first second 1 0 rows := by
  obtain ⟨rows, hrun, hrows, hcolumn, hrow⟩ := exists_border first.length second.length
  refine ⟨rows, hrun, hrows, fun {k l} hk hl hplace => ?_⟩
  by_cases hl₀ : l = 0
  · subst hl₀
    rw [hcolumn k (Nat.lt_succ_of_le hk), cell_zero_right second hk]
  · obtain rfl : k = 0 := by omega
    rw [hrow l (Nat.lt_succ_of_le hl), cell_zero_left first hl]

/-- The entry in a row and a column that are not the first ones, by the characters there. -/
theorem cell_succ_of_getElem? {first second : Text} {i j : Nat} {a b : Char} (ha : first[i]? = some a)
    (hb : second[j]? = some b) :
    cell first second (i + 1) (j + 1) = nextEntry (cell first second) (i + 1) (j + 1) (lastPlace (first.take i) b)
      (lastPlace (second.take j) a) (cell first second (i + 1) j) (cell first second i (j + 1)) (cell first second i j)
      a b := by
  obtain ⟨hi, rfl⟩ := List.getElem?_eq_some_iff.mp ha
  obtain ⟨hj, rfl⟩ := List.getElem?_eq_some_iff.mp hb
  have hp : first.take i ++ [first[i]] <+: first := by
    rw [← List.take_succ_eq_append_getElem hi]
    exact List.take_prefix _ _
  have hq : second.take j ++ [second[j]] <+: second := by
    rw [← List.take_succ_eq_append_getElem hj]
    exact List.take_prefix _ _
  have h := cell_succ hp hq
  rw [List.length_take_of_le (Nat.le_of_lt hi), List.length_take_of_le (Nat.le_of_lt hj)] at h
  exact h

section

variable {first second : Text} {i j : Nat} {lastRow : LastRows} {f : RowFilling} {a b : Char}

/-- An entry is filled from those that it looks back to, if these lie within the table. -/
theorem fillEntry_eq (h : Rectangular first.length second.length f.rows) (ha : first[i]? = some a)
    (hb : second[j]? = some b) (hrow : lastRow.getD b 0 ≤ i) (hcolumn : f.matched ≤ j) :
    fillEntry first second lastRow (i + 1) f (j + 1) =
      (writeEntry f.rows (i + 1) (j + 1) (nextEntry (entry f.rows) (i + 1) (j + 1) (lastRow.getD b 0) f.matched
        (entry f.rows (i + 1) j) (entry f.rows i (j + 1)) (entry f.rows i j) a b)).map
          fun rows => ⟨rows, if a = b then j + 1 else f.matched⟩ := by
  have hi : i + 1 ≤ first.length := (List.getElem?_eq_some_iff.mp ha).1
  have hj : j + 1 ≤ second.length := (List.getElem?_eq_some_iff.mp hb).1
  have hone : ∀ k, subtract (k + 1) 1 = .ok k := fun k => subtract_ok (Nat.le_add_left 1 k)
  unfold fillEntry nextEntry
  simp only [hone, ok_bind, readAt_ok ha, readAt_ok hb, h.readEntry_ok hi (Nat.le_of_succ_le hj),
    h.readEntry_ok (Nat.le_of_succ_le hi) hj, h.readEntry_ok (Nat.le_of_succ_le hi) (Nat.le_of_succ_le hj)]
  -- The entry for a swap is read only where both characters were met before, and then no subtraction is too great.
  by_cases hpos : 0 < lastRow.getD b 0 ∧ 0 < f.matched
  · simp only [if_pos hpos]
    rw [subtract_ok (show 1 ≤ lastRow.getD b 0 from hpos.1), subtract_ok (show 1 ≤ f.matched from hpos.2)]
    simp only [ok_bind]
    rw [h.readEntry_ok (by omega) (by omega), subtract_ok (show lastRow.getD b 0 ≤ i + 1 by omega),
      subtract_ok (show f.matched ≤ j + 1 by omega)]
    simp only [ok_bind]
    rw [subtract_ok (show 1 ≤ i + 1 - lastRow.getD b 0 by omega), subtract_ok (show 1 ≤ j + 1 - f.matched by omega)]
    rfl
  · simp only [if_neg hpos]
    rfl

/-- Filling an entry succeeds, and what is filled reaches one column farther. -/
theorem exists_fillEntry (h : Filled first second (i + 1) j f.rows) (ha : first[i]? = some a) (hj : j < second.length)
    (hrow : ∀ c, lastRow.getD c 0 = lastPlace (first.take i) c) (hcolumn : f.matched = lastPlace (second.take j) a) :
    ∃ f', fillEntry first second lastRow (i + 1) f (j + 1) = .ok f' ∧ Filled first second (i + 1) (j + 1) f'.rows ∧
      f'.matched = lastPlace (second.take (j + 1)) a := by
  have hi : i < first.length := (List.getElem?_eq_some_iff.mp ha).1
  have hb : second[j]? = some second[j] := List.getElem?_eq_getElem hj
  have hrowLe : lastPlace (first.take i) second[j] ≤ i :=
    Nat.le_trans (lastPlace_le _ _) (List.length_take_le _ _)
  have hcolumnLe : lastPlace (second.take j) a ≤ j := Nat.le_trans (lastPlace_le _ _) (List.length_take_le _ _)
  -- All entries that are read lie in rows before this one, or in this one in a column before.
  have hentry : nextEntry (entry f.rows) (i + 1) (j + 1) (lastRow.getD second[j] 0) f.matched (entry f.rows (i + 1) j)
      (entry f.rows i (j + 1)) (entry f.rows i j) a second[j] = cell first second (i + 1) (j + 1) := by
    rw [cell_succ_of_getElem? ha hb, hrow, hcolumn, h.entry_eq hi (Nat.le_of_lt hj) (by omega),
      h.entry_eq (Nat.le_of_lt hi) hj (by omega), h.entry_eq (Nat.le_of_lt hi) (Nat.le_of_lt hj) (by omega)]
    unfold nextEntry
    rw [h.entry_eq (k := lastPlace (first.take i) second[j] - 1) (by omega) (by omega) (by omega)]
  obtain ⟨rows, hwrite, hrows, hothers⟩ := h.rectangular.writeEntry_ok (i := i + 1) (j := j + 1) hi hj
    (cell first second (i + 1) (j + 1))
  refine ⟨⟨rows, if a = second[j] then j + 1 else f.matched⟩, ?_, ⟨hrows, fun {k l} hk hl hplace => ?_⟩, ?_⟩
  · rw [fillEntry_eq h.rectangular ha hb (by rw [hrow]; exact hrowLe) (by rw [hcolumn]; exact hcolumnLe), hentry,
      hwrite]
    rfl
  · rw [hothers]
    split
    · rename_i hnew
      rw [hnew.1, hnew.2]
    · exact h.entry_eq hk hl (by omega)
  · rw [List.take_succ_eq_append_getElem hj, lastPlace_concat, List.length_take_of_le (Nat.le_of_lt hj), hcolumn]
    exact if_congr eq_comm rfl rfl

end

/-- Filling a row succeeds, and what is filled reaches one row farther. -/
theorem exists_fillRow {first second : Text} {i : Nat} {f : Filling} (h : Filled first second (i + 1) 0 f.rows)
    (hi : i < first.length) (hrow : ∀ c, f.lastRow.getD c 0 = lastPlace (first.take i) c) :
    ∃ f', fillRow first second f (i + 1) = .ok f' ∧ Filled first second (i + 2) 0 f'.rows ∧
      ∀ c, f'.lastRow.getD c 0 = lastPlace (first.take (i + 1)) c := by
  have ha : first[i]? = some first[i] := List.getElem?_eq_getElem hi
  obtain ⟨filled, hrun, hfilled, -⟩ := exists_foldlM_range' (fillEntry first second f.lastRow (i + 1))
    (s := ⟨f.rows, 0⟩)
    (fun j f => Filled first second (i + 1) j f.rows ∧ f.matched = lastPlace (second.take j) first[i])
    ⟨h, rfl⟩ fun j f hj ⟨hfilled, hcolumn⟩ => exists_fillEntry hfilled ha hj hrow hcolumn
  refine ⟨⟨filled.rows, f.lastRow.insert first[i] (i + 1)⟩, ?_, hfilled.endRow, fun c => ?_⟩
  · rw [fillRow, hrun, ok_bind, subtract_ok (Nat.le_add_left 1 i), ok_bind, Nat.add_sub_cancel, readAt_ok ha]
    rfl
  · rw [Std.HashMap.getD_insert, List.take_succ_eq_append_getElem hi, lastPlace_concat,
      List.length_take_of_le (Nat.le_of_lt hi), hrow]
    exact if_congr beq_iff_eq rfl rfl

/-- All indices lie within the texts and the table, no subtraction goes below zero, and the result is the distance. -/
theorem distanceInPlace_eq (first second : Text) : distanceInPlace first second = .ok (distance first second) := by
  rw [distance_eq_cell]
  by_cases hempty : first.length = 0 ∨ second.length = 0
  · rw [distanceInPlace, if_pos hempty]
    rcases hempty with hempty | hempty
    · rw [hempty, cell_zero_left first (Nat.le_refl _), Nat.zero_max]
      rfl
    · rw [hempty, cell_zero_right second (Nat.le_refl _), Nat.max_zero]
      rfl
  · obtain ⟨rows, hstart, hrows⟩ := exists_startRows first second
    obtain ⟨filled, hrun, hfilled, -⟩ := exists_foldlM_range' (fillRow first second) (s := ⟨rows, ∅⟩)
      (fun i f => Filled first second (i + 1) 0 f.rows ∧
        ∀ c, f.lastRow.getD c 0 = lastPlace (first.take i) c)
      ⟨hrows, fun _ => Std.HashMap.getD_empty⟩ fun i f hi ⟨hfilled, hrow⟩ => exists_fillRow hfilled hi hrow
    rw [distanceInPlace, if_neg hempty, hstart, ok_bind, hrun, ok_bind,
      hfilled.rectangular.readEntry_ok (Nat.le_refl _) (Nat.le_refl _),
      hfilled.entry_eq (Nat.le_refl _) (Nat.le_refl _) (by omega)]

/-! ## The distance -/

/-- The distance is the least number of insertions, deletions, substitutions and swaps of neighbouring characters, in
any order and anywhere, that turn one text into the other. So it is symmetric, zero for equal texts only, and no way
through a third text is shorter. To compute it in place needs no index outside of the texts and the table and no number
below zero. -/
theorem distance_leastEdits :
    (∀ a b, IsLeast {n | Edits true n a b} (distance a b)) ∧
      (∀ a b, distance a b = distance b a) ∧ (∀ a b, distance a b = 0 ↔ a = b) ∧
      (∀ a b c, distance a c ≤ distance a b + distance b c) ∧
      ∀ a b, distanceInPlace a b = .ok (distance a b) :=
  ⟨countsEdits_distance, countsEdits_distance.symm, fun _ _ => countsEdits_distance.eq_zero_iff,
    countsEdits_distance.triangle, distanceInPlace_eq⟩

/-- A swap and an insertion between the swapped characters, which an alignment does not find. -/
example : distance ['c', 'a'] ['a', 'b', 'c'] = 2 ∧ Alignment.distance ['c', 'a'] ['a', 'b', 'c'] = 3 := by
  decide

end TextAnalysis.Damerau
