/-
# Visits as maps

A visit walks over a sequence with a cursor and changes every token in place. It comes to a map along the list
of tokens with their indices, and leaves the rest of the sequence as it is.
-/
import TextAnalysis.Sequence.Sweep
import TextAnalysis.Proofs.Cursors
import TextAnalysis.Proofs.Cursors.Places

namespace TextAnalysis.Sequence

variable {α : Type}

/-- A visit from a cursor on maps the tokens after the cursor, whatever stands before it. -/
theorem visitFrom_eq (f : Nat → α → Except Error α) (rest : List α) :
    ∀ (steps : Nat) (passed : List α) (c : Cursor) (s : Sequence α), c.Follows s →
      s.tokens = passed ++ rest → c.next = passed.length → rest.length ≤ steps →
      visitFrom f steps c s =
        ((rest.zipIdx passed.length).mapM fun (t, i) => f i t).map
          fun changed => { s with tokens := passed ++ changed } := by
  induction rest with
  | nil =>
    intro steps passed c s hc hs hnext _
    have hsize : s.size = passed.length := by rw [size, hs, List.append_nil]
    have hend : s = { s with tokens := passed ++ [] } := by rw [← hs]
    cases steps with
    | zero => exact congrArg Except.ok hend
    | succ steps =>
      unfold visitFrom
      rw [Cursor.hasNext_eq_ok hc, decide_eq_false (by omega)]
      exact congrArg Except.ok hend
  | cons t rest ih =>
    intro steps passed c s hc hs hnext hsteps
    have hsize : s.size = passed.length + (rest.length + 1) := by
      rw [size, hs, List.length_append, List.length_cons]
    have ht : s.tokens[c.next]? = some t := by rw [hs, hnext, Places.getElem?_split]
    cases steps with
    | zero => exact absurd hsteps (by simp)
    | succ steps =>
      unfold visitFrom
      rw [Cursor.hasNext_eq_ok hc, decide_eq_true (by omega), Cursor.forward_eq_ok hc ht,
        List.zipIdx_cons, List.mapM_cons]
      show f c.next t >>= _ = (f passed.length t >>= _).map _
      rw [hnext]
      cases hf : f passed.length t with
      | error e => rfl
      | ok changed =>
        -- The changed token goes to what is passed, and the cursor stands behind it.
        have hset : s.tokens.set passed.length changed = (passed ++ [changed]) ++ rest := by
          rw [hs, Places.set_split, List.append_assoc]
          rfl
        have hfollows : Cursor.Follows
            { c with next := passed.length + 1, last := some passed.length } s := hc
        have hrest := ih steps (passed ++ [changed]) _
          { s with tokens := s.tokens.set passed.length changed } hfollows hset (by simp)
          (by simpa using hsteps)
        rw [ok_bind, ok_bind, Cursor.modifyCurrent_eq_ok hfollows rfl (hnext ▸ ht)]
        refine hrest.trans ?_
        rw [List.length_append, List.length_singleton]
        cases (rest.zipIdx (passed.length + 1)).mapM fun (t, i) => f i t with
        | error e => rfl
        | ok others => simp [Except.map, pure, Except.pure]

/-- A visit maps all tokens, each with its index. -/
theorem visit_eq (f : Nat → α → Except Error α) (s : Sequence α) :
    s.visit f = (s.tokens.zipIdx.mapM fun (t, i) => f i t).map
      fun changed => { s with tokens := changed } := by
  unfold visit
  rw [Cursor.start_eq_ok (Nat.zero_le _)]
  exact visitFrom_eq f s.tokens s.size [] _ s ⟨rfl, rfl⟩ rfl rfl (Nat.le_refl _)

/-- A visit that does not use the indices maps all tokens. -/
theorem visit_eq_mapM (f : α → Except Error α) (s : Sequence α) :
    s.visit (fun _ => f) = (s.tokens.mapM f).map fun changed => { s with tokens := changed } := by
  have htokens : (s.tokens.zipIdx.mapM fun (t, _) => f t) = s.tokens.mapM f := by
    conv_rhs => rw [← List.zipIdx_map_fst 0 s.tokens, List.mapM_map]
    rfl
  rw [visit_eq, htokens]

end TextAnalysis.Sequence
