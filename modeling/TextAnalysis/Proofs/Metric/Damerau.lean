/-
# The table of the Damerau-Levenshtein distance

What the entries of the table have to do with layouts: an entry is the cost of a layout of the two beginnings that it
stands for, and no layout of them costs less.
-/
import Mathlib.Data.List.GetD
import Mathlib.Data.List.Induction
import Mathlib.Data.Nat.Basic
import Mathlib.Order.Basic
import TextAnalysis.Metric.Damerau
import TextAnalysis.Proofs.Metric.Tables

namespace TextAnalysis.Damerau

/-! ## Last places -/

/-- The last place of a character in a text, counted from one, and zero if there is none. -/
def lastPlace (text : Text) (c : Char) : Nat :=
  lastRowOf text.reverse c

theorem lastRowOf_cons (d : Char) (seen : Text) (c : Char) :
    lastRowOf (d :: seen) c = if d = c then seen.length + 1 else lastRowOf seen c := by
  unfold lastRowOf
  rw [List.findIdx?_cons]
  by_cases h : d = c
  · simp [h]
  · cases hfind : seen.findIdx? (· == c) with
    | none => simp [h]
    | some k => simp [h]

@[simp] theorem lastPlace_nil (c : Char) : lastPlace [] c = 0 :=
  rfl

theorem lastPlace_concat (text : Text) (d c : Char) :
    lastPlace (text ++ [d]) c = if d = c then text.length + 1 else lastPlace text c := by
  unfold lastPlace
  rw [List.reverse_concat, lastRowOf_cons, List.length_reverse]

theorem lastPlace_le (text : Text) (c : Char) : lastPlace text c ≤ text.length := by
  induction text using List.reverseRecOn with
  | nil => exact Nat.le_refl 0
  | append_singleton text d ih =>
    rw [lastPlace_concat, List.length_append, List.length_singleton]
    split
    · exact Nat.le_refl _
    · exact Nat.le_succ_of_le ih

/-- At its last place a character stands. -/
theorem exists_split_of_lastPlace {text : Text} {c : Char} (h : 0 < lastPlace text c) :
    ∃ s u, text = s ++ c :: u ∧ lastPlace text c = s.length + 1 := by
  induction text using List.reverseRecOn with
  | nil => cases h
  | append_singleton text d ih =>
    rw [lastPlace_concat] at h ⊢
    by_cases hd : d = c
    · subst hd
      exact ⟨text, [], rfl, if_pos rfl⟩
    · rw [if_neg hd] at h ⊢
      obtain ⟨s, u, hsplit, hplace⟩ := ih h
      refine ⟨s, u ++ [d], ?_, hplace⟩
      rw [hsplit, List.append_assoc, List.cons_append]

/-- A character does not stand behind its last place. -/
theorem le_lastPlace (s u : Text) (c : Char) : s.length + 1 ≤ lastPlace (s ++ c :: u) c := by
  induction u using List.reverseRecOn with
  | nil =>
    rw [lastPlace_concat, if_pos rfl]
  | append_singleton u d ih =>
    have hsplit : s ++ c :: (u ++ [d]) = s ++ c :: u ++ [d] := by simp
    rw [hsplit, lastPlace_concat]
    split
    · simp only [List.length_append, List.length_cons]
      omega
    · exact ih

/-- The last place of a character goes no less far than any other. -/
theorem exists_append_of_lastPlace (s u : Text) (c : Char) :
    ∃ m u', s ++ c :: u = s ++ m ++ c :: u' ∧ lastPlace (s ++ c :: u) c = (s ++ m).length + 1 := by
  have hle := le_lastPlace s u c
  obtain ⟨t, u', hsplit, hplace⟩ := exists_split_of_lastPlace (Nat.lt_of_lt_of_le (Nat.succ_pos _) hle)
  have hprefix : t <+: s ++ c :: u := ⟨c :: u', hsplit.symm⟩
  obtain ⟨m, rfl⟩ := List.prefix_of_prefix_length_le (List.prefix_append s (c :: u)) hprefix (by omega)
  exact ⟨m, u', hsplit, hplace⟩

/-! ## Rows -/

/-- The entry in row `i` and column `j` with the characters `a` and `b`, from its neighbours and from `look` for the
entries farther up. The last row before with `b` is `i₁`, and the last column before with `a` is `j₁`. -/
def nextEntry (look : Nat → Nat → Nat) (i j i₁ j₁ left up corner : Nat) (a b : Char) : Nat :=
  let edited := min (min (left + 1) (up + 1)) (corner + if a = b then 0 else 1)
  if 0 < i₁ ∧ 0 < j₁ then min edited (look (i₁ - 1) (j₁ - 1) + (i - i₁ - 1) + (j - j₁ - 1) + 1) else edited

section

variable {look : Nat → Nat → Nat} {i j i₁ j₁ left up corner : Nat} {a b : Char}

/-- What holds of all numbers of which an entry is the least holds of the entry. -/
theorem nextEntry_of {p : Nat → Prop} (hleft : p (left + 1)) (hup : p (up + 1))
    (hcorner : p (corner + if a = b then 0 else 1))
    (hswap : 0 < i₁ → 0 < j₁ → p (look (i₁ - 1) (j₁ - 1) + (i - i₁ - 1) + (j - j₁ - 1) + 1)) :
    p (nextEntry look i j i₁ j₁ left up corner a b) := by
  have hedited := min_rec' p (min_rec' p hleft hup) hcorner
  unfold nextEntry
  dsimp only
  by_cases hpos : 0 < i₁ ∧ 0 < j₁
  · rw [if_pos hpos]
    exact min_rec' p hedited (hswap hpos.1 hpos.2)
  · rw [if_neg hpos]
    exact hedited

theorem nextEntry_le_edited : nextEntry look i j i₁ j₁ left up corner a b ≤
    min (min (left + 1) (up + 1)) (corner + if a = b then 0 else 1) := by
  unfold nextEntry
  dsimp only
  by_cases hpos : 0 < i₁ ∧ 0 < j₁
  · rw [if_pos hpos]
    exact Nat.min_le_left _ _
  · rw [if_neg hpos]

theorem nextEntry_le_swap (hi : 0 < i₁) (hj : 0 < j₁) : nextEntry look i j i₁ j₁ left up corner a b ≤
    look (i₁ - 1) (j₁ - 1) + (i - i₁ - 1) + (j - j₁ - 1) + 1 := by
  unfold nextEntry
  rw [if_pos ⟨hi, hj⟩]
  exact Nat.min_le_right _ _

end

theorem length_rowFrom (rows : List (List Nat)) (seen : Text) (i : Nat) (a : Char) (j left matched : Nat)
    {above : List Nat} {second : Text} (h : above.length = second.length + 1) :
    (rowFrom rows seen i a j left matched above second).length = second.length := by
  induction second generalizing above j left matched with
  | nil =>
    match above, h with
    | [corner], _ => rfl
  | cons b second ih =>
    match above, h with
    | corner :: up :: above, h =>
      simp only [rowFrom, List.length_cons, Nat.add_right_cancel_iff]
      exact ih _ _ _ (by simpa using h)

/-- One more entry of a row. `passed` is the text in front of its column, which may now be the last one with the
character of the row. -/
theorem rowFrom_cons (rows : List (List Nat)) (seen : Text) (i : Nat) (a : Char) (left : Nat) (passed : Text)
    (corner up : Nat) (above : List Nat) (c : Char) (second : Text) {here : Nat}
    (hhere : here = nextEntry (entry rows) i (passed.length + 1) (lastRowOf seen c) (lastPlace passed a) left up
      corner a c) :
    rowFrom rows seen i a (passed.length + 1) left (lastPlace passed a) (corner :: up :: above) (c :: second) =
      here :: rowFrom rows seen i a ((passed ++ [c]).length + 1) here (lastPlace (passed ++ [c]) a) (up :: above)
        second := by
  have hmatched : (if a = c then passed.length + 1 else lastPlace passed a) = lastPlace (passed ++ [c]) a := by
    rw [lastPlace_concat]
    exact if_congr eq_comm rfl rfl
  have hlength : (passed ++ [c]).length + 1 = passed.length + 1 + 1 := by
    rw [List.length_append, List.length_singleton]
  rw [hlength, ← hmatched, hhere]
  rfl

/-- Every entry of a row but the first comes from the one before it and from those above. -/
theorem getD_rowFrom (rows : List (List Nat)) (seen : Text) (i : Nat) (a : Char) (left : Nat) (passed : Text)
    {above : List Nat} {second : Text} (h : above.length = second.length + 1) {k : Nat} {b : Char}
    (hb : second[k]? = some b) {row : List Nat}
    (hrow : row = left :: rowFrom rows seen i a (passed.length + 1) left (lastPlace passed a) above second) :
    row.getD (k + 1) 0 = nextEntry (entry rows) i (passed.length + k + 1) (lastRowOf seen b)
      (lastPlace (passed ++ second.take k) a) (row.getD k 0) (above.getD (k + 1) 0) (above.getD k 0) a b := by
  induction second generalizing above k left passed row with
  | nil => cases hb
  | cons c second ih =>
    match above, h with
    | corner :: up :: above, h =>
      rw [rowFrom_cons _ _ _ _ _ _ _ _ _ _ _ rfl] at hrow
      cases k with
      | zero =>
        obtain rfl : c = b := by simpa using hb
        rw [hrow]
        simp
      | succ k =>
        have habove : (up :: above).length = second.length + 1 := by simpa using h
        -- The entries behind this one are those of a row that starts with it.
        have hrest := ih _ (passed ++ [c]) habove hb (congrArg List.tail hrow)
        have hcolumn : (passed ++ [c]).length + k + 1 = passed.length + (k + 1) + 1 := by
          rw [List.length_append, List.length_singleton]
          omega
        rw [hcolumn, List.append_assoc, List.singleton_append, ← List.take_succ_cons] at hrest
        rw [hrow] at hrest ⊢
        exact hrest

/-! ## The table -/

theorem table_concat (first : Text) (a : Char) (second : Text) :
    table (first ++ [a]) second = (table first second).extend second a := by
  unfold table
  rw [List.foldl_append, List.foldl_cons, List.foldl_nil]

theorem seen_table (first second : Text) : (table first second).seen = first.reverse := by
  induction first using List.reverseRecOn with
  | nil => rfl
  | append_singleton first a ih =>
    rw [table_concat, List.reverse_concat, ← ih]
    rfl

/-- The table has a row for every beginning of the first text. -/
theorem length_rows_table (first second : Text) : (table first second).rows.length = first.length + 1 := by
  induction first using List.reverseRecOn with
  | nil => rfl
  | append_singleton first a ih =>
    rw [table_concat, Table.extend, List.length_append, ih, List.length_append]
    rfl

/-- The last row of a table is as long as the first one. -/
theorem length_getLastD_rows (first second : Text) :
    ((table first second).rows.getLastD []).length = second.length + 1 := by
  induction first using List.reverseRecOn with
  | nil => exact List.length_range
  | append_singleton first a ih =>
    rw [table_concat, Table.extend, List.getLastD_concat, List.length_cons, length_rowFrom _ _ _ _ _ _ _ ih]

/-- The entry for the beginnings of two texts with given lengths. -/
def cell (first second : Text) (i j : Nat) : Nat :=
  entry (table first second).rows i j

/-- An entry depends on the beginning of the first text that it stands for. -/
theorem cell_append (first more second : Text) {i : Nat} (hi : i ≤ first.length) (j : Nat) :
    cell (first ++ more) second i j = cell first second i j := by
  induction more using List.reverseRecOn with
  | nil => rw [List.append_nil]
  | append_singleton more a ih =>
    rw [← ih, ← List.append_assoc]
    unfold cell entry
    rw [table_concat, Table.extend, List.getD_append]
    rw [length_rows_table, List.length_append]
    omega

/-- The last row of a table is the one for the whole first text. -/
theorem getD_getLastD_rows (first second : Text) (j : Nat) :
    ((table first second).rows.getLastD []).getD j 0 = cell first second first.length j := by
  unfold cell entry
  rw [List.getLastD_eq_getLast?, List.getLast?_eq_getElem?, length_rows_table, Nat.add_sub_cancel]
  rfl

theorem cell_zero_left (first : Text) {second : Text} {j : Nat} (hj : j ≤ second.length) :
    cell first second 0 j = j := by
  have h := cell_append [] first second (Nat.le_refl 0) j
  rw [List.nil_append] at h
  exact h.trans (getD_range hj)

/-- An entry in a row of its own, after the last character of the first text. -/
theorem cell_concat (first : Text) (a : Char) (second : Text) (j : Nat) :
    cell (first ++ [a]) second (first.length + 1) j =
      ((first.length + 1) :: rowFrom (table first second).rows first.reverse (first.length + 1) a 1
        (first.length + 1) 0 ((table first second).rows.getLastD []) second).getD j 0 := by
  unfold cell entry
  rw [table_concat, Table.extend, seen_table, length_rows_table, List.getD_append_right, length_rows_table,
    Nat.sub_self]
  · rfl
  · exact Nat.le_of_eq (length_rows_table first second)

theorem cell_zero_right {first : Text} (second : Text) {i : Nat} (hi : i ≤ first.length) :
    cell first second i 0 = i := by
  have hlength : (first.take i).length = i := List.length_take_of_le hi
  rw [← List.take_append_drop i first, cell_append _ _ _ (Nat.le_of_eq hlength.symm)]
  rcases (first.take i).eq_nil_or_concat with hnil | ⟨passed, a, hconcat⟩
  · rw [hnil] at hlength ⊢
    subst hlength
    exact cell_zero_left [] (Nat.zero_le _)
  · rw [List.concat_eq_append] at hconcat
    rw [hconcat, List.length_append, List.length_singleton] at hlength
    rw [hconcat, ← hlength, cell_concat]
    rfl

theorem cell_concat_succ (first : Text) (a : Char) {second : Text} {j : Nat} {b : Char} (hb : second[j]? = some b) :
    cell (first ++ [a]) second (first.length + 1) (j + 1) = nextEntry (cell first second) (first.length + 1) (j + 1)
      (lastPlace first b) (lastPlace (second.take j) a) (cell (first ++ [a]) second (first.length + 1) j)
      (cell first second first.length (j + 1)) (cell first second first.length j) a b := by
  have h := getD_rowFrom (table first second).rows first.reverse (first.length + 1) a (first.length + 1) []
    (length_getLastD_rows first second) hb rfl
  rw [List.length_nil, lastPlace_nil, List.nil_append, Nat.zero_add, Nat.zero_add, getD_getLastD_rows,
    getD_getLastD_rows, ← cell_concat, ← cell_concat] at h
  exact h

/-- Every other entry comes from its neighbours and from one farther up. -/
theorem cell_succ {first second p q : Text} {a b : Char} (hp : p ++ [a] <+: first) (hq : q ++ [b] <+: second) :
    cell first second (p.length + 1) (q.length + 1) = nextEntry (cell first second) (p.length + 1) (q.length + 1)
      (lastPlace p b) (lastPlace q a) (cell first second (p.length + 1) q.length)
      (cell first second p.length (q.length + 1)) (cell first second p.length q.length) a b := by
  obtain ⟨rest, rfl⟩ := hp
  obtain ⟨rest', rfl⟩ := hq
  -- The rows up to this one are those of the beginning that ends with its character.
  have hrow : ∀ j, cell (p ++ [a] ++ rest) (q ++ [b] ++ rest') (p.length + 1) j =
      cell (p ++ [a]) (q ++ [b] ++ rest') (p.length + 1) j :=
    fun j => cell_append _ _ _ (by simp) j
  have habove : ∀ {k}, k ≤ p.length → ∀ j,
      cell (p ++ [a] ++ rest) (q ++ [b] ++ rest') k j = cell p (q ++ [b] ++ rest') k j := by
    intro k hk j
    rw [List.append_assoc p]
    exact cell_append _ _ _ hk j
  have hplace : lastPlace p b - 1 ≤ p.length := Nat.le_trans (Nat.sub_le _ _) (lastPlace_le p b)
  have hb : (q ++ [b] ++ rest')[q.length]? = some b := by simp
  have hq : (q ++ [b] ++ rest').take q.length = q := by simp
  rw [hrow, hrow, cell_concat_succ p a hb, hq]
  unfold nextEntry
  rw [habove (Nat.le_refl _), habove (Nat.le_refl _), habove hplace]

/-! ## Entries as costs -/

/-- A swap of the last characters of two beginnings with the last ones before that are the same the other way round. -/
theorem layout_swap {first second p q : Text} {a b : Char} (hp : p ++ [a] <+: first) (hq : q ++ [b] <+: second)
    (hplace : 0 < lastPlace p b) (hplace' : 0 < lastPlace q a)
    (hbefore : ∀ s t, s.length < p.length → s <+: first → t <+: second →
      Layout true (cell first second s.length t.length) s t) :
    Layout true
      (cell first second (lastPlace p b - 1) (lastPlace q a - 1) + (p.length + 1 - lastPlace p b - 1) +
        (q.length + 1 - lastPlace q a - 1) + 1) (p ++ [a]) (q ++ [b]) := by
  obtain ⟨s, u, rfl, hs⟩ := exists_split_of_lastPlace hplace
  obtain ⟨t, w, rfl, ht⟩ := exists_split_of_lastPlace hplace'
  have hlayout := hbefore s t (by simp)
    (((List.prefix_append s _).trans (List.prefix_append _ _)).trans hp)
    (((List.prefix_append t _).trans (List.prefix_append _ _)).trans hq)
  -- Between the places and the ends stand what is deleted and what is inserted.
  have hcost : cell first second (lastPlace (s ++ b :: u) b - 1) (lastPlace (t ++ a :: w) a - 1) +
      ((s ++ b :: u).length + 1 - lastPlace (s ++ b :: u) b - 1) +
        ((t ++ a :: w).length + 1 - lastPlace (t ++ a :: w) a - 1) + 1 =
      cell first second s.length t.length + (u.length + w.length + 1) := by
    rw [hs, ht]
    simp only [List.length_append, List.length_cons, Nat.add_sub_cancel]
    omega
  rw [hcost]
  simpa using hlayout.exchange b a u w rfl

/-- An entry is the cost of a layout of the beginnings that it stands for. -/
theorem layout_cell {first second p q : Text} (hp : p <+: first) (hq : q <+: second) :
    Layout true (cell first second p.length q.length) p q := by
  refine beginnings_induction (motive := fun p q => Layout true (cell first second p.length q.length) p q)
    (fun q hq => ?top) (fun p hp => ?side) (fun p q a b hp hq hrows hleft => ?inner) hp hq
  case top =>
    rw [List.length_nil, cell_zero_left first hq.length_le]
    exact .insertAll q
  case side =>
    rw [List.length_nil, cell_zero_right second hp.length_le]
    exact .deleteAll p
  case inner =>
    have hpBefore := (List.prefix_append p [a]).trans hp
    have hup := hrows p _ (Nat.le_refl _) hpBefore hq
    have hcorner := hrows p q (Nat.le_refl _) hpBefore ((List.prefix_append q [b]).trans hq)
    rw [List.length_append, List.length_singleton] at hleft hup
    rw [List.length_append, List.length_append, List.length_singleton, List.length_singleton, cell_succ hp hq]
    exact nextEntry_of (p := fun n => Layout true n _ _) (hleft.insert b) (hup.delete a) (hcorner.pair a b)
      fun hplace hplace' => layout_swap hp hq hplace hplace' fun s t hlength => hrows s t (Nat.le_of_lt hlength)

/-! ## Entries as least costs -/

theorem editEntries_cell (first second : Text) :
    EditEntries first second fun p q => cell first second p.length q.length where
  top hq := cell_zero_left first hq.length_le
  side hp := cell_zero_right second hp.length_le
  inner_le hp hq := by
    simp only [List.length_append, List.length_singleton]
    rw [cell_succ hp hq]
    exact nextEntry_le_edited

section

variable {first second p q : Text}

theorem cell_succ_le_swap {a b : Char} (hp : p ++ [a] <+: first) (hq : q ++ [b] <+: second)
    (hplace : 0 < lastPlace p b) (hplace' : 0 < lastPlace q a) :
    cell first second (p.length + 1) (q.length + 1) ≤
      cell first second (lastPlace p b - 1) (lastPlace q a - 1) + (p.length + 1 - lastPlace p b - 1) +
        (q.length + 1 - lastPlace q a - 1) + 1 := by
  rw [cell_succ hp hq]
  exact nextEntry_le_swap hplace hplace'

/-- A swap that is looked up in the last places is no dearer than any other swap of the same characters. -/
theorem cell_exchange_le (x y : Char) (u w : Text) (hp : p ++ x :: (u ++ [y]) <+: first)
    (hq : q ++ y :: (w ++ [x]) <+: second) :
    cell first second (p ++ x :: (u ++ [y])).length (q ++ y :: (w ++ [x])).length ≤
      cell first second p.length q.length + (u.length + w.length + 1) := by
  have hlast : p ++ x :: (u ++ [y]) = p ++ x :: u ++ [y] := by simp
  have hlast' : q ++ y :: (w ++ [x]) = q ++ y :: w ++ [x] := by simp
  rw [hlast] at hp ⊢
  rw [hlast'] at hq ⊢
  obtain ⟨m, u', hm, hplace⟩ := exists_append_of_lastPlace p u x
  obtain ⟨m', w', hm', hplace'⟩ := exists_append_of_lastPlace q w y
  have hswap := cell_succ_le_swap hp hq (by omega) (by omega)
  -- What stands between the places of the other swap and the last ones is edited character by character.
  have hm₀ : p ++ m <+: first := by
    refine List.IsPrefix.trans ?_ hp
    rw [hm, List.append_assoc]
    exact List.prefix_append _ _
  have hm₀' : q ++ m' <+: second := by
    refine List.IsPrefix.trans ?_ hq
    rw [hm', List.append_assoc]
    exact List.prefix_append _ _
  have hbetween := (editEntries_cell first second).append_le m m' hm₀ hm₀'
  have hlength := congrArg List.length hm
  have hlength' := congrArg List.length hm'
  rw [hplace, hplace', Nat.add_sub_cancel, Nat.add_sub_cancel] at hswap
  simp only [List.length_append, List.length_cons, List.length_nil, Nat.zero_add] at hlength hlength' hswap hbetween ⊢
  omega

end

/-- No layout of two beginnings costs less than the entry that stands for them. -/
theorem cell_le {first second p q : Text} {n : Nat} (h : Layout true n p q) (hp : p <+: first) (hq : q <+: second) :
    cell first second p.length q.length ≤ n :=
  (editEntries_cell first second).le_of_layout (fun _ => cell_exchange_le) h hp hq

/-! ## The distance -/

/-- The distance is the last entry of the table. -/
theorem distance_eq_cell (first second : Text) :
    distance first second = cell first second first.length second.length := by
  have hlength := length_getLastD_rows first second
  rw [← getD_getLastD_rows, distance, List.getLastD_eq_getLast?, List.getLast?_eq_getElem?, hlength]
  rfl

/-- The distance is the least number of edits, swaps included. -/
theorem countsEdits_distance : CountsEdits true distance := by
  refine .of_layouts (fun a b => ?_) fun a b n h => ?_
  · rw [distance_eq_cell]
    exact layout_cell (List.prefix_refl a) (List.prefix_refl b)
  · rw [distance_eq_cell]
    exact cell_le h (List.prefix_refl a) (List.prefix_refl b)

end TextAnalysis.Damerau
