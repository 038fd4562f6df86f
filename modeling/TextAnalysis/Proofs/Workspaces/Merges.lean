/-
# Merges and the sides of the cursor

Where a cursor stands after a merge, in every run. A token that is not merged stays ahead of the cursor or behind it,
unless the token visited last is ahead and the other one more than one place behind. Then the token directly before the
cursor is ahead afterwards, so that a walk forward repeats it and a walk back skips it.
-/
import TextAnalysis.Proofs.Cursors.Sides
import TextAnalysis.Proofs.Workspaces.Safety

namespace TextAnalysis.Workspace

open Cursor (Action moved shift unmerged)

variable {α σ : Type}

/-- **Sides of a merge.** In every run a cursor that follows a sequence and has visited a token can merge it with any
other one. Each of the remaining tokens is afterwards at its shifted place. It is on the same side of the cursor as
before, and the walks forward and back answer the same unmerged tokens, unless a token strays: that is the one directly
before the cursor, and it goes from the walk back to the walk forward. -/
theorem run_mergeSides [Token α] (events : List (Event α σ)) {j k : Nat} {c : Cursor} {s : Sequence α}
    (hc : (run events).cursors[j]? = some c) (hs : (run events).sequences[k]? = some s) (hfollows : c.Follows s)
    {i other : Nat} (hlast : c.last = some i) (hother : other < s.size) (hne : other ≠ i) (combine : α → α → α) :
    ∃ c' s', c.merge s other combine = .ok (c', s') ∧
      (∀ p, p ≠ i → p ≠ other → s'.tokens[shift i other p]? = s.tokens[p]?) ∧
      (∀ p, p ≠ i → p ≠ other →
        (c'.next ≤ shift i other p ↔ c.next ≤ p ∨ (p + 1 = c.next ∧ c.Strays i other))) ∧
      (¬ c.Strays i other →
        ((c'.ahead s').filter fun r => r.2 ≠ min i other) =
            ((c.ahead s).filter (unmerged i other)).map (moved i other) ∧
          ((c'.behind s').filter fun r => r.2 ≠ min i other) =
            ((c.behind s).filter (unmerged i other)).map (moved i other)) ∧
      (c.Strays i other → ∃ t, s.tokens[c.next - 1]? = some t ∧
        ((c'.ahead s').filter fun r => r.2 ≠ min i other) =
            (t, c.next - 1) :: ((c.ahead s).filter (unmerged i other)).map (moved i other) ∧
          ((c.behind s).filter (unmerged i other)).map (moved i other) =
            (t, c.next - 1) :: (c'.behind s').filter fun r => r.2 ≠ min i other) := by
  have hr : c.InRange s := (coherent_run events).inRange hc hs hfollows
  obtain ⟨x, hx⟩ := hr.exists_token hlast
  have hy : s.tokens[other]? = some s.tokens[other] := List.getElem?_eq_getElem hother
  refine ⟨_, _, Cursor.merge_eq_ok hfollows hlast hne hx hy combine, ?_, ?_, ?_, ?_⟩
  · intro p hi hp
    exact Cursor.getElem?_shift s.tokens i other _ hi hp
  · intro p _ hp
    exact Cursor.next_le_shift_iff c hp
  · exact Cursor.walks_of_not_strays hfollows hr hlast hne hx hy _
  · exact Cursor.walks_of_strays hfollows hr hlast hne hx hy _

/-- Three fragments of which a cursor passes over the last one, forward and back. -/
def lastPassedBack : List (Event Fragment Unit) :=
  [.create (.listed [⟨['a'], .single 0, by decide⟩, ⟨['b'], .single 1, by decide⟩, ⟨['c'], .single 2, by decide⟩] []
      .empty),
    .openCursor 0 2, .act 0 0 .forward, .act 0 0 .backward]

/-- Merging the last fragment with the one in the middle takes no token to the other side. -/
theorem run_mergeSides_lastPassedBack :
    ∃ c s c' s', (run lastPassedBack).cursors[0]? = some c ∧ (run lastPassedBack).sequences[0]? = some s ∧
      c.Follows s ∧ c.last = some 2 ∧ 1 < s.size ∧ c.merge s 1 (fun t _ => t) = .ok (c', s') ∧
      s'.tokens[0]? = s.tokens[0]? ∧ ¬ c'.next ≤ 0 := by
  have hc : (run lastPassedBack).cursors[0]? = some ⟨0, 0, 2, some 2⟩ := rfl
  have hs : (run lastPassedBack).sequences[0]? = some (run lastPassedBack).sequences[0] := rfl
  obtain ⟨c', s', hmerge, hplaces, hsides, -⟩ :=
    run_mergeSides lastPassedBack hc hs ⟨rfl, rfl⟩ rfl (show 1 < 3 by decide) (by decide) fun t _ => t
  refine ⟨_, _, c', s', hc, hs, ⟨rfl, rfl⟩, rfl, by decide, hmerge, hplaces 0 (by decide) (by decide), ?_⟩
  intro hahead
  rcases (hsides 0 (by decide) (by decide)).1 hahead with hnext | ⟨hplace, -⟩
  · exact absurd hnext (by decide)
  · exact absurd hplace (by decide)

/-- Merging it with the first one takes the one in the middle from behind the cursor to ahead, and the next step
forward answers it again. -/
theorem merge_lastPassedBack :
    ∃ c s c' s' t, (run lastPassedBack).cursors[0]? = some c ∧ (run lastPassedBack).sequences[0]? = some s ∧
      c.Follows s ∧ c.last = some 2 ∧ c.merge s 0 (fun t _ => t) = .ok (c', s') ∧
      s.tokens[1]? = some t ∧ 1 < c.next ∧ s'.tokens[1]? = some t ∧ c'.next ≤ 1 ∧
      (c'.forward s').map Prod.fst = .ok t :=
  ⟨_, _, _, _, _, rfl, rfl, ⟨rfl, rfl⟩, rfl, rfl, rfl, by decide, rfl, by decide, rfl⟩

end TextAnalysis.Workspace
