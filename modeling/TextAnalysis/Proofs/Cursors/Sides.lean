/-
# Sides of a merge

Where the tokens of a sequence are after two of them were merged, and on which side of the cursor. A token that is not
merged keeps its side, with one exception. If the place of the other token is before the cursor, the cursor goes back
by one, as if the tokens between that place and the cursor had moved. But they only move if the token visited last does
not stand behind them.
-/
import TextAnalysis.Proofs.Cursors.Effects
import TextAnalysis.Proofs.Cursors.Places

namespace TextAnalysis.Cursor

variable {α : Type}

/-! ## Walks -/

/-- The tokens with their places that at most `steps` steps forward answer one after the other. -/
def forwardWalk (s : Sequence α) : Nat → Cursor → List (α × Nat)
  | 0, _ => []
  | steps + 1, c =>
    match c.forward s with
    | .ok (t, c') => (t, c.next) :: forwardWalk s steps c'
    | .error _ => []

/-- The tokens with their places that at most `steps` steps back answer one after the other. -/
def backwardWalk (s : Sequence α) : Nat → Cursor → List (α × Nat)
  | 0, _ => []
  | steps + 1, c =>
    match c.backward s with
    | .ok (t, c') => (t, c'.next) :: backwardWalk s steps c'
    | .error _ => []

/-- The tokens that a walk forward to the end answers, with their places. -/
def ahead (c : Cursor) (s : Sequence α) : List (α × Nat) :=
  forwardWalk s s.size c

/-- The tokens that a walk back to the start answers, with their places. -/
def behind (c : Cursor) (s : Sequence α) : List (α × Nat) :=
  backwardWalk s s.size c

section Walks

variable {c : Cursor} {s : Sequence α}

theorem forwardWalk_eq (hc : c.Follows s) {steps : Nat} (hsteps : s.size ≤ c.next + steps) :
    forwardWalk s steps c = s.tokens.zipIdx.drop c.next := by
  have hlength : s.tokens.zipIdx.length = s.size := List.length_zipIdx
  induction steps generalizing c with
  | zero => exact (List.drop_eq_nil_of_le (Nat.le_trans (Nat.le_of_eq hlength) hsteps)).symm
  | succ steps ih =>
    rcases forward_cases hc with ⟨t, ht, hforward⟩ | ⟨hend, hforward⟩
    · have hrest := ih ((keeps_forward hc ht).follows hc)
        (show s.size ≤ c.next + 1 + steps by omega)
      have hlt : c.next < s.tokens.zipIdx.length := hlength ▸ (List.getElem?_eq_some_iff.1 ht).1
      have hhead : s.tokens.zipIdx[c.next] = (t, c.next) := by
        rw [List.getElem_zipIdx, (List.getElem?_eq_some_iff.1 ht).2, Nat.zero_add]
      rw [forwardWalk, hforward]
      show (t, c.next) :: forwardWalk s steps _ = _
      rw [hrest, List.drop_eq_getElem_cons hlt, hhead]
    · rw [forwardWalk, hforward]
      exact (List.drop_eq_nil_of_le (Nat.le_trans (Nat.le_of_eq hlength) hend)).symm

theorem backwardWalk_eq (hc : c.Follows s) (hr : c.InRange s) {steps : Nat} (hsteps : c.next ≤ steps) :
    backwardWalk s steps c = (s.tokens.zipIdx.take c.next).reverse := by
  have hlength : s.tokens.zipIdx.length = s.size := List.length_zipIdx
  induction steps generalizing c with
  | zero =>
    rw [Nat.le_zero.1 hsteps]
    rfl
  | succ steps ih =>
    rcases backward_cases hc hr with ⟨t, hpos, ht, hbackward⟩ | ⟨hend, hbackward⟩
    · have hkeeps := keeps_backward hc ht
      have hrest := ih (hkeeps.follows hc) (hkeeps.inRange hr) (show c.next - 1 ≤ steps by omega)
      have hlt : c.next - 1 < s.tokens.zipIdx.length := hlength ▸ (List.getElem?_eq_some_iff.1 ht).1
      have hlast : s.tokens.zipIdx[c.next - 1] = (t, c.next - 1) := by
        rw [List.getElem_zipIdx, (List.getElem?_eq_some_iff.1 ht).2, Nat.zero_add]
      -- The token that is passed over is the last one of those behind the cursor.
      have htake : s.tokens.zipIdx.take c.next = s.tokens.zipIdx.take (c.next - 1) ++ [(t, c.next - 1)] := by
        rw [← hlast, List.take_append_getElem hlt, Nat.sub_add_cancel hpos]
      rw [backwardWalk, hbackward]
      show (t, c.next - 1) :: backwardWalk s steps _ = _
      rw [hrest, htake, List.reverse_append]
      rfl
    · rw [backwardWalk, hbackward, hend]
      rfl

theorem ahead_eq (hc : c.Follows s) : c.ahead s = s.tokens.zipIdx.drop c.next :=
  forwardWalk_eq hc (Nat.le_add_left ..)

theorem behind_eq (hc : c.Follows s) (hr : c.InRange s) : c.behind s = (s.tokens.zipIdx.take c.next).reverse :=
  backwardWalk_eq hc hr hr.next

end Walks

/-! ## Places after a merge -/

/-- Where a token that is not merged stands after the tokens at two places were merged. -/
def shift (i other p : Nat) : Nat :=
  if p < max i other then p else p - 1

/-- Whether a token with its place is neither of two merged ones. -/
def unmerged (i other : Nat) (r : α × Nat) : Bool :=
  r.2 ≠ i ∧ r.2 ≠ other

/-- A token with the place where it stands after a merge. -/
def moved (i other : Nat) (r : α × Nat) : α × Nat :=
  (r.1, shift i other r.2)

/-- The token directly before the cursor strays at a merge if the place of the other token is further back and the
token visited last is not before the cursor. -/
def Strays (c : Cursor) (i other : Nat) : Prop :=
  other + 1 < c.next ∧ c.next ≤ i

/-- A token that is not merged is afterwards at its shifted place. -/
theorem getElem?_shift (l : List α) (i other : Nat) (t : α) {p : Nat} (hi : p ≠ i) (hother : p ≠ other) :
    ((l.set (min i other) t).eraseIdx (max i other))[shift i other p]? = l[p]? := by
  unfold shift
  by_cases hp : p < max i other
  · rw [if_pos hp, List.getElem?_eraseIdx_of_lt hp, List.getElem?_set_ne (by omega)]
  · rw [if_neg hp, List.getElem?_eraseIdx_of_ge (by omega), Nat.sub_add_cancel (by omega),
      List.getElem?_set_ne (by omega)]

/-- A token other than the one that goes into the token visited last is afterwards ahead of the cursor if it was before,
and also if it strays. -/
theorem next_le_shift_iff (c : Cursor) {i other p : Nat} (hother : p ≠ other) :
    (if other < c.next then c.next - 1 else c.next) ≤ shift i other p ↔
      c.next ≤ p ∨ (p + 1 = c.next ∧ c.Strays i other) := by
  unfold shift Strays
  split
  · split
    · omega
    · omega
  · split
    · omega
    · omega

section Merges

variable {c : Cursor} {s : Sequence α} {i other : Nat} {x y : α}

/-- The cursor and the sequence after a merge. -/
def merged (c : Cursor) (s : Sequence α) (i other : Nat) (t : α) : Cursor × Sequence α :=
  { c with
    next := if other < c.next then c.next - 1 else c.next
    last := some (min i other) }.afterEdit s ((s.tokens.set (min i other) t).eraseIdx (max i other))

/-- The tokens with their places after a merge, without the merged one. -/
theorem zipIdx_merged (hne : other ≠ i) (hx : s.tokens[i]? = some x) (hy : s.tokens[other]? = some y) (t : α) :
    ((merged c s i other t).2.tokens.zipIdx.filter fun r => r.2 ≠ min i other) =
      (s.tokens.zipIdx.filter (unmerged i other)).map (moved i other) := by
  have hplaces : ∃ a b, s.tokens[min i other]? = some a ∧ s.tokens[max i other]? = some b := by
    rcases Nat.lt_or_gt_of_ne hne with hlt | hlt
    · rw [Nat.min_eq_right (Nat.le_of_lt hlt), Nat.max_eq_left (Nat.le_of_lt hlt)]
      exact ⟨y, x, hy, hx⟩
    · rw [Nat.min_eq_left (Nat.le_of_lt hlt), Nat.max_eq_right (Nat.le_of_lt hlt)]
      exact ⟨x, y, hx, hy⟩
  obtain ⟨a, b, ha, hb⟩ := hplaces
  refine (Places.zipIdx_eraseIdx_set (by omega) ha hb t).trans ?_
  refine congrArg (List.map _) (List.filter_congr ?_)
  intro r _
  unfold unmerged
  rw [decide_eq_decide]
  omega

/-- The same of the tokens at some of the places, if the shift takes these places to each other. -/
theorem filter_merged (hne : other ≠ i) (hx : s.tokens[i]? = some x) (hy : s.tokens[other]? = some y) (t : α)
    {p q : Nat → Bool} (h : ∀ k, k ≠ i → k ≠ other → p (shift i other k) = q k) :
    (((merged c s i other t).2.tokens.zipIdx.filter fun r => p r.2).filter fun r => r.2 ≠ min i other) =
      ((s.tokens.zipIdx.filter fun r => q r.2).filter (unmerged i other)).map (moved i other) := by
  rw [List.filter_comm, zipIdx_merged hne hx hy t, List.filter_map, List.filter_filter, List.filter_filter]
  refine congrArg _ (List.filter_congr ?_)
  intro r _
  cases hr : unmerged i other r with
  | false => rw [Bool.and_false, Bool.false_and]
  | true =>
    have hplaces := of_decide_eq_true hr
    rw [Bool.and_true, Bool.true_and]
    exact h r.2 hplaces.1 hplaces.2

/-- What is ahead of the cursor and behind it after a merge, if the unmerged tokens that are ahead of it come from the
places from `n` on. -/
theorem walks_merged (hc : c.Follows s) (hr : c.InRange s) (hi : c.last = some i) (hne : other ≠ i)
    (hx : s.tokens[i]? = some x) (hy : s.tokens[other]? = some y) (t : α) {n : Nat}
    (hn : ∀ p, p ≠ i → p ≠ other → ((merged c s i other t).1.next ≤ shift i other p ↔ n ≤ p)) :
    let after := merged c s i other t
    ((after.1.ahead after.2).filter fun r => r.2 ≠ min i other) =
        ((s.tokens.zipIdx.drop n).filter (unmerged i other)).map (moved i other) ∧
      ((after.1.behind after.2).filter fun r => r.2 ≠ min i other) =
        ((s.tokens.zipIdx.take n).reverse.filter (unmerged i other)).map (moved i other) := by
  intro after
  have hedited : Edited c s i (.merge other fun _ _ => t : Action α Unit) _ _ _ :=
    .merge hne (List.getElem?_eq_some_iff.1 hy).1 (fun _ _ => t) t
  have hadvances : Advances c s after.1 after.2 := hedited.advances hc hr hi
  -- What is ahead are the tokens from a place on, and what is behind those before it: both are filters by places.
  constructor
  · rw [ahead_eq hadvances.follows_after, Places.drop_zipIdx_eq_filter, Places.drop_zipIdx_eq_filter]
    refine filter_merged (p := fun k => 0 + after.1.next ≤ k) (q := fun k => 0 + n ≤ k) hne hx hy t ?_
    intro k hi hother
    rw [decide_eq_decide, Nat.zero_add, Nat.zero_add]
    exact hn k hi hother
  · rw [behind_eq hadvances.follows_after hadvances.inRange, List.filter_reverse, List.filter_reverse,
      List.map_reverse, Places.take_zipIdx_eq_filter, Places.take_zipIdx_eq_filter]
    refine congrArg _ (filter_merged (p := fun k => k < 0 + after.1.next) (q := fun k => k < 0 + n) hne hx hy t ?_)
    intro k hi hother
    rw [decide_eq_decide, Nat.zero_add, Nat.zero_add, ← Nat.not_le, ← Nat.not_le]
    exact not_congr (hn k hi hother)

/-- A merge in which no token strays keeps the walks ahead and behind, up to the merged tokens. -/
theorem walks_of_not_strays (hc : c.Follows s) (hr : c.InRange s) (hi : c.last = some i) (hne : other ≠ i)
    (hx : s.tokens[i]? = some x) (hy : s.tokens[other]? = some y) (t : α) (hstrays : ¬ c.Strays i other) :
    let after := merged c s i other t
    ((after.1.ahead after.2).filter fun r => r.2 ≠ min i other) =
        ((c.ahead s).filter (unmerged i other)).map (moved i other) ∧
      ((after.1.behind after.2).filter fun r => r.2 ≠ min i other) =
        ((c.behind s).filter (unmerged i other)).map (moved i other) := by
  rw [ahead_eq hc, behind_eq hc hr]
  refine walks_merged hc hr hi hne hx hy t ?_
  intro p _ hother
  rw [merged, afterEdit, next_le_shift_iff c hother]
  exact or_iff_left fun h => hstrays h.2

/-- A merge in which a token strays takes it from the walk behind to the walk ahead. -/
theorem walks_of_strays (hc : c.Follows s) (hr : c.InRange s) (hi : c.last = some i) (hne : other ≠ i)
    (hx : s.tokens[i]? = some x) (hy : s.tokens[other]? = some y) (t : α) (hstrays : c.Strays i other) :
    let after := merged c s i other t
    ∃ u, s.tokens[c.next - 1]? = some u ∧
      ((after.1.ahead after.2).filter fun r => r.2 ≠ min i other) =
        (u, c.next - 1) :: ((c.ahead s).filter (unmerged i other)).map (moved i other) ∧
      ((c.behind s).filter (unmerged i other)).map (moved i other) =
        (u, c.next - 1) :: (after.1.behind after.2).filter fun r => r.2 ≠ min i other := by
  intro after
  obtain ⟨hback, hahead⟩ := hstrays
  have hlt : c.next - 1 < s.tokens.length := by
    have hnext : c.next ≤ s.tokens.length := hr.next
    omega
  have hlength : c.next - 1 < s.tokens.zipIdx.length := Nat.lt_of_lt_of_eq hlt List.length_zipIdx.symm
  have hsides : ∀ p, p ≠ i → p ≠ other → ((merged c s i other t).1.next ≤ shift i other p ↔ c.next - 1 ≤ p) := by
    intro p _ hother
    refine (next_le_shift_iff c hother).trans ?_
    unfold Strays
    omega
  obtain ⟨hafter, hbefore⟩ := walks_merged hc hr hi hne hx hy t hsides
  -- The token that strays is not merged and stays at its place.
  have hget : s.tokens.zipIdx[c.next - 1] = (s.tokens[c.next - 1], c.next - 1) := by
    rw [List.getElem_zipIdx, Nat.zero_add]
  have hunmerged : unmerged i other (s.tokens[c.next - 1], c.next - 1) = true :=
    decide_eq_true (show c.next - 1 ≠ i ∧ c.next - 1 ≠ other by omega)
  have hmoved : moved i other (s.tokens[c.next - 1], c.next - 1) = (s.tokens[c.next - 1], c.next - 1) := by
    unfold moved shift
    rw [if_pos (by omega)]
  have hdrop : s.tokens.zipIdx.drop (c.next - 1) =
      (s.tokens[c.next - 1], c.next - 1) :: s.tokens.zipIdx.drop c.next := by
    rw [List.drop_eq_getElem_cons hlength, hget, Nat.sub_add_cancel (by omega)]
  have htake : (s.tokens.zipIdx.take c.next).reverse =
      (s.tokens[c.next - 1], c.next - 1) :: (s.tokens.zipIdx.take (c.next - 1)).reverse := by
    rw [← hget, ← List.reverse_concat, List.take_append_getElem hlength, Nat.sub_add_cancel (by omega)]
  refine ⟨s.tokens[c.next - 1], List.getElem?_eq_getElem hlt, ?_, ?_⟩
  · rw [hafter, hdrop, List.filter_cons_of_pos hunmerged, List.map_cons, hmoved, ahead_eq hc]
  · rw [hbefore, behind_eq hc hr, htake, List.filter_cons_of_pos hunmerged, List.map_cons, hmoved]

end Merges

end TextAnalysis.Cursor
