/-
# Valid cursors

A cursor follows a sequence if it belongs to it and has seen all of its edits. What the operations of such a
cursor do is a matter of lists and indices.
-/
import TextAnalysis.Sequence.Cursor
import TextAnalysis.Proofs.Outcomes

namespace TextAnalysis.Cursor

variable {α : Type}

/-- The cursor belongs to the sequence and has seen all of its edits. -/
def Follows (c : Cursor) (s : Sequence α) : Prop :=
  c.owner = s.number ∧ c.edits = s.edits

/-- The check of a cursor passes exactly for the sequence that it follows. -/
theorem check_eq_ok_iff {c : Cursor} {s : Sequence α} : c.check s = .ok () ↔ c.Follows s := by
  unfold check Follows
  split
  · rename_i h
    simp [Ne.symm h]
  · split
    · rename_i h
      simp [Ne.symm h]
    · simp_all

/-- A new cursor follows its sequence. -/
theorem start_eq_ok {s : Sequence α} {index : Nat} (h : index ≤ s.size) :
    start s index = .ok { owner := s.number, edits := s.edits, next := index, last := none } := by
  unfold start
  rw [if_neg (by omega)]

theorem visited_eq_ok {c : Cursor} {i : Nat} (h : c.last = some i) : c.visited = .ok i := by
  unfold visited
  rw [h]

theorem tokenAt_eq_ok {s : Sequence α} {i : Nat} {t : α} (h : s.tokens[i]? = some t) :
    tokenAt s i = .ok t := by
  unfold tokenAt
  rw [h]

theorem hasNext_eq_ok {c : Cursor} {s : Sequence α} (h : c.Follows s) :
    c.hasNext s = .ok (decide (c.next < s.size)) := by
  unfold hasNext
  rw [check_eq_ok_iff.2 h]
  rfl

/-- A step forward passes over the token after the cursor. -/
theorem forward_eq_ok {c : Cursor} {s : Sequence α} (h : c.Follows s) {t : α}
    (ht : s.tokens[c.next]? = some t) :
    c.forward s = .ok (t, { c with next := c.next + 1, last := some c.next }) := by
  have hlt : c.next < s.size := (List.getElem?_eq_some_iff.1 ht).1
  unfold forward
  rw [hasNext_eq_ok h, tokenAt_eq_ok ht, decide_eq_true hlt]
  rfl

/-- There is no step forward from the end. -/
theorem forward_eq_error {c : Cursor} {s : Sequence α} (h : c.Follows s) (hend : s.size ≤ c.next) :
    c.forward s = .error .noSuchElement := by
  unfold forward
  rw [hasNext_eq_ok h, decide_eq_false (Nat.not_lt.2 hend)]
  rfl

/-- A change of the token visited last replaces it in its place. -/
theorem modifyCurrent_eq_ok {c : Cursor} {s : Sequence α} (h : c.Follows s) {i : Nat} {t : α}
    (hi : c.last = some i) (ht : s.tokens[i]? = some t) (f : α → α) :
    c.modifyCurrent s f = .ok { s with tokens := s.tokens.set i (f t) } := by
  unfold modifyCurrent
  rw [check_eq_ok_iff.2 h, visited_eq_ok hi, ok_bind, ok_bind, tokenAt_eq_ok ht]
  rfl

theorem hasPrevious_eq_ok {c : Cursor} {s : Sequence α} (h : c.Follows s) :
    c.hasPrevious s = .ok (decide (0 < c.next)) := by
  unfold hasPrevious
  rw [check_eq_ok_iff.2 h]
  rfl

/-- A step back passes over the token before the cursor. -/
theorem backward_eq_ok {c : Cursor} {s : Sequence α} (h : c.Follows s) (hpos : 0 < c.next) {t : α}
    (ht : s.tokens[c.next - 1]? = some t) :
    c.backward s = .ok (t, { c with next := c.next - 1, last := some (c.next - 1) }) := by
  unfold backward
  rw [hasPrevious_eq_ok h, decide_eq_true hpos, tokenAt_eq_ok ht]
  rfl

theorem current_eq_ok {c : Cursor} {s : Sequence α} (h : c.Follows s) {i : Nat} {t : α}
    (hi : c.last = some i) (ht : s.tokens[i]? = some t) : c.current s = .ok t := by
  unfold current
  rw [check_eq_ok_iff.2 h, visited_eq_ok hi, ok_bind, ok_bind, tokenAt_eq_ok ht]

/-- A new token stands before the one visited last. -/
theorem add_eq_ok {c : Cursor} {s : Sequence α} (h : c.Follows s) {i : Nat} (hi : c.last = some i) (t : α) :
    c.add s t = .ok ({ c with last := some (i + 1) }.afterEdit s (s.tokens.insertIdx i t)) := by
  unfold add
  rw [check_eq_ok_iff.2 h, visited_eq_ok hi]
  rfl

/-- The token visited last goes away, and no token is visited any more. -/
theorem remove_eq_ok {c : Cursor} {s : Sequence α} (h : c.Follows s) {i : Nat} {t : α}
    (hi : c.last = some i) (ht : s.tokens[i]? = some t) :
    c.remove s =
      .ok (t, { c with
          next := if i < c.next then c.next - 1 else c.next
          last := none }.afterEdit s (s.tokens.eraseIdx i)) := by
  unfold remove
  rw [check_eq_ok_iff.2 h, visited_eq_ok hi, ok_bind, ok_bind, tokenAt_eq_ok ht]
  rfl

/-- Another token takes the place of the one visited last. -/
theorem replace_eq_ok {c : Cursor} {s : Sequence α} (h : c.Follows s) {i : Nat} {old : α}
    (hi : c.last = some i) (hold : s.tokens[i]? = some old) (t : α) :
    c.replace s t = .ok (old, c.afterEdit s (s.tokens.set i t)) := by
  unfold replace
  rw [check_eq_ok_iff.2 h, visited_eq_ok hi, ok_bind, ok_bind, tokenAt_eq_ok hold]
  rfl

/-- Two parts take the place of the token visited last. -/
theorem split_eq_ok {c : Cursor} {s : Sequence α} (h : c.Follows s) {i : Nat} {t : α}
    (hi : c.last = some i) (ht : s.tokens[i]? = some t) (divide : α → α × α) :
    c.split s divide =
      .ok (c.afterEdit s ((s.tokens.set i (divide t).1).insertIdx (i + 1) (divide t).2)) := by
  unfold split
  rw [check_eq_ok_iff.2 h, visited_eq_ok hi, ok_bind, ok_bind, tokenAt_eq_ok ht]
  rfl

/-- Merging the token visited last with another one puts what they make at the smaller index. -/
theorem merge_eq_ok {c : Cursor} {s : Sequence α} (h : c.Follows s) {i other : Nat} {t u : α}
    (hi : c.last = some i) (hne : other ≠ i) (ht : s.tokens[i]? = some t)
    (hu : s.tokens[other]? = some u) (combine : α → α → α) :
    c.merge s other combine =
      .ok ({ c with
              next := if other < c.next then c.next - 1 else c.next
              last := some (min i other) }.afterEdit s
            ((s.tokens.set (min i other) (combine t u)).eraseIdx (max i other))) := by
  have hlt : ¬ s.size ≤ other := Nat.not_le.2 (List.getElem?_eq_some_iff.1 hu).1
  unfold merge
  rw [check_eq_ok_iff.2 h, visited_eq_ok hi]
  simp only [ok_bind, if_neg hlt, if_neg hne, tokenAt_eq_ok ht, tokenAt_eq_ok hu]
  rfl

end TextAnalysis.Cursor
