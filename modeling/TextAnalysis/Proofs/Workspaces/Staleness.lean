/-
# Stale cursors

A cursor belongs to the sequence that it was created for. On any other sequence it fails, and on its own it fails as
soon as another cursor has edited the sequence, and from then on. Only a search over no steps does not look at the
sequence and does not fail.
-/
import TextAnalysis.Proofs.Workspaces.Safety

namespace TextAnalysis.Workspace

open Cursor (Action)

variable {α σ : Type} {w : Workspace α}

/-! ## Stale cursors -/

/-- The cursor at the place `i` belongs to the sequence at the place `k` and has not seen all of its edits. -/
def Stale (w : Workspace α) (i k : Nat) : Prop :=
  ∃ c s, w.cursors[i]? = some c ∧ w.sequences[k]? = some s ∧ c.owner = k ∧ c.edits < s.edits

/-- Every action of a stale cursor on its sequence fails, except those that are idle. -/
theorem Stale.perform_eq (h : w.Coherent) {i k : Nat} (hstale : w.Stale i k) {c : Cursor} {s : Sequence α}
    (hc : w.cursors[i]? = some c) (hs : w.sequences[k]? = some s) {a : Action α σ} (ha : a.isIdle = false) :
    a.perform c s = .error (.concurrentModification c.edits s.edits) := by
  obtain ⟨d, t, hd, ht, howner, hlt⟩ := hstale
  rw [hc] at hd
  cases hd
  rw [hs] at ht
  cases ht
  have hnumber : s.number = c.owner := (h.number hs).trans howner.symm
  exact Action.perform_of_check ha (Cursor.check_of_unseen hnumber (Nat.ne_of_gt hlt))

/-- A cursor that does not follow the sequence that owns it is stale. -/
theorem stale_of_check (h : w.Coherent) {i : Nat} {c : Cursor} {s : Sequence α} (hc : w.cursors[i]? = some c)
    (hs : w.sequences[c.owner]? = some s) (hcheck : c.check s ≠ .ok ()) : w.Stale i c.owner := by
  have hseen := (h.sound hc hs rfl).seen
  refine ⟨c, s, hc, hs, rfl, Nat.lt_of_le_of_ne hseen ?_⟩
  intro hedits
  exact hcheck (Cursor.check_eq_ok_iff.2 ⟨(h.number hs).symm, hedits⟩)

/-! ## Owners -/

variable [Token α]

/-- After the events, the cursor at the place `i` was created for the sequence at the place `k`, or copied from a
cursor that was. -/
inductive CreatedFor : List (Event α σ) → Nat → Nat → Prop
  | opened {events : List (Event α σ)} {k index : Nat} {s : Sequence α} {c : Cursor}
      (hs : (run events).sequences[k]? = some s) (hc : Cursor.start s index = .ok c) :
      CreatedFor (events ++ [.openCursor k index]) (run events).cursors.length k
  | copied {events : List (Event α σ)} {i k : Nat} (h : CreatedFor events i k) :
      CreatedFor (events ++ [.copyCursor i]) (run events).cursors.length k
  | later {events : List (Event α σ)} {i k : Nat} (e : Event α σ) (h : CreatedFor events i k) :
      CreatedFor (events ++ [e]) i k

/-- A cursor stays in its place and keeps its owner. It sees new edits only by editing its own sequence. -/
theorem exists_cursor_apply (h : w.Coherent) (e : Event α σ) {i : Nat} {c : Cursor}
    (hc : w.cursors[i]? = some c) :
    ∃ c', (w.apply e).cursors[i]? = some c' ∧ c'.owner = c.owner ∧
      (c'.edits = c.edits ∨ e.Edits w i c.owner) := by
  have hlt : i < w.cursors.length := (List.getElem?_eq_some_iff.1 hc).1
  have hchanges := changes_apply w e
  generalize w.apply e = w' at hchanges
  cases hchanges with
  | nothing => exact ⟨c, hc, rfl, .inl rfl⟩
  | created => exact ⟨c, hc, rfl, .inl rfl⟩
  | labelled => exact ⟨c, hc, rfl, .inl rfl⟩
  | opened => exact ⟨c, (List.getElem?_append_left hlt).trans hc, rfl, .inl rfl⟩
  | copied => exact ⟨c, (List.getElem?_append_left hlt).trans hc, rfl, .inl rfl⟩
  | @acted j k a x d d' s s' hd hs hperform =>
    -- Only an action of its own changes a cursor.
    by_cases hj : j = i
    · subst hj
      rw [hc] at hd
      cases hd
      by_cases hedit : a.isEdit = true
      · have hadvances := a.advances_of_perform hedit (h.inRange hc hs) hperform
        have howner : c.owner = k := hadvances.follows.1.trans (h.number hs)
        refine ⟨d', List.getElem?_set_self hlt, hadvances.owner, .inr ?_⟩
        rw [howner]
        exact ⟨a, c, s, _, rfl, hedit, hc, hs, hperform⟩
      · rw [Bool.not_eq_true] at hedit
        have hkeeps := a.keeps_of_perform hedit (h.inRange hc hs) hperform
        exact ⟨d', List.getElem?_set_self hlt, hkeeps.owner, .inl hkeeps.seen⟩
    · exact ⟨c, (List.getElem?_set_ne hj).trans hc, rfl, .inl rfl⟩

/-- A cursor is owned by the sequence that it was created for. -/
theorem CreatedFor.exists_cursor {events : List (Event α σ)} {i k : Nat} (h : CreatedFor events i k) :
    ∃ c, (run events).cursors[i]? = some c ∧ c.owner = k := by
  induction h with
  | @opened events k index s c hs hc =>
    rw [run_concat, apply_openCursor hs hc]
    have howner := (Cursor.sound_of_start hc).1
    exact ⟨c, List.getElem?_concat_length, howner.trans ((coherent_run events).number hs)⟩
  | @copied events i k h ih =>
    obtain ⟨c, hc, howner⟩ := ih
    rw [run_concat, apply_copyCursor hc]
    exact ⟨c, List.getElem?_concat_length, howner⟩
  | later e h ih =>
    obtain ⟨c, hc, howner⟩ := ih
    obtain ⟨c', hc', howner', -⟩ := exists_cursor_apply (coherent_run _) e hc
    rw [run_concat]
    exact ⟨c', hc', howner'.trans howner⟩

/-- What a cursor was created for does not change. -/
theorem CreatedFor.append {events : List (Event α σ)} {i k : Nat} (h : CreatedFor events i k)
    (after : List (Event α σ)) : CreatedFor (events ++ after) i k := by
  induction after generalizing events with
  | nil =>
    rw [List.append_nil]
    exact h
  | cons e after ih =>
    rw [List.append_cons]
    exact ih (.later e h)

/-- Every cursor was created for some sequence. -/
theorem exists_createdFor (events : List (Event α σ)) {i : Nat} {c : Cursor}
    (hc : (run events).cursors[i]? = some c) : ∃ k, CreatedFor events i k := by
  induction events using List.reverseRecOn generalizing i c with
  | nil => cases hc
  | append_singleton events e ih =>
    rw [run_concat] at hc
    have hchanges := changes_apply (run events) e
    generalize (run events).apply e = w' at hchanges hc
    -- A cursor that was there before the last event keeps what it was created for.
    have hlater : ∀ {d}, (run events).cursors[i]? = some d → ∃ k, CreatedFor (events ++ [e]) i k := by
      intro d hd
      obtain ⟨k, hk⟩ := ih hd
      exact ⟨k, .later e hk⟩
    cases hchanges with
    | nothing => exact hlater hc
    | created => exact hlater hc
    | labelled => exact hlater hc
    | opened hs hstart =>
      rcases getElem?_concat_cases hc with hc | ⟨rfl, -⟩
      · exact hlater hc
      · exact ⟨_, .opened hs hstart⟩
    | copied hd =>
      rcases getElem?_concat_cases hc with hc | ⟨rfl, -⟩
      · exact hlater hc
      · obtain ⟨k, hk⟩ := ih hd
        exact ⟨k, .copied hk⟩
    | acted hd =>
      rcases getElem?_set_cases hc with ⟨rfl, -⟩ | ⟨-, hc⟩
      · exact hlater hd
      · exact hlater hc

/-- The sequence that a cursor was created for is the one that owns it. -/
theorem createdFor_iff {events : List (Event α σ)} {i : Nat} {c : Cursor}
    (hc : (run events).cursors[i]? = some c) (k : Nat) : CreatedFor events i k ↔ k = c.owner := by
  have howner : ∀ {l}, CreatedFor events i l → l = c.owner := by
    intro l hl
    obtain ⟨d, hd, hdl⟩ := hl.exists_cursor
    rw [hc] at hd
    cases hd
    exact hdl.symm
  constructor
  · exact howner
  · rintro rfl
    obtain ⟨l, hl⟩ := exists_createdFor events hc
    rw [← howner hl]
    exact hl

/-! ## How cursors become stale -/

/-- An edit by one cursor makes all other cursors of the sequence stale. -/
theorem stale_of_edits (h : w.Coherent) {e : Event α σ} {i j k : Nat} {c : Cursor}
    (hc : w.cursors[i]? = some c) (howner : c.owner = k) (hne : j ≠ i) (hedits : e.Edits w j k) :
    (w.apply e).Stale i k := by
  obtain ⟨d, s, d', s', -, hs, hadvances, happly⟩ := exists_sequence_of_edits h hedits
  have hlt : k < w.sequences.length := (List.getElem?_eq_some_iff.1 hs).1
  have hseen := (h.sound hc hs howner).seen
  have hcount := hadvances.edits
  rw [happly]
  refine ⟨c, s', (List.getElem?_set_ne hne).trans hc, List.getElem?_set_self hlt, howner, ?_⟩
  omega

/-- A stale cursor stays stale: it cannot edit, and the edits of its sequence only grow. -/
theorem stale_apply (h : w.Coherent) {i k : Nat} (hstale : w.Stale i k) (e : Event α σ) :
    (w.apply e).Stale i k := by
  have hstale' := hstale
  obtain ⟨c, s, hc, hs, rfl, hlt⟩ := hstale'
  obtain ⟨s', hs', -, hedits⟩ := exists_sequence_apply h e hs
  obtain ⟨c', hc', howner, hseen⟩ := exists_cursor_apply h e hc
  -- The cursor could catch up only by an edit of its own, and that fails.
  rcases hseen with hseen | ⟨a, d, t, r, -, hedit, hd, ht, hperform⟩
  · refine ⟨c', s', hc', hs', howner, ?_⟩
    rcases hedits with ⟨-, hedits⟩ | ⟨-, hedits⟩
    · omega
    · omega
  · rw [hstale.perform_eq h hd ht (Action.isIdle_of_isEdit hedit)] at hperform
    cases hperform

/-- A stale cursor stays stale, whatever happens. -/
theorem stale_foldl (h : w.Coherent) {i k : Nat} (hstale : w.Stale i k) (events : List (Event α σ)) :
    (events.foldl apply w).Stale i k := by
  induction events generalizing w with
  | nil => exact hstale
  | cons e events ih => exact ih (coherent_of_changes h (changes_apply w e)) (stale_apply h hstale e)

/-! ## Changes of content -/

/-- A change of content leaves all cursors as they are. -/
theorem cursors_apply_modifyCurrent (w : Workspace α) (j l : Nat) (f : α → α) :
    (w.apply (.act j l (.modifyCurrent f) : Event α σ)).cursors = w.cursors := by
  have hchanges := changes_apply w (.act j l (.modifyCurrent f) : Event α σ)
  generalize w.apply (.act j l (.modifyCurrent f) : Event α σ) = w' at hchanges
  cases hchanges with
  | nothing => rfl
  | labelled => rfl
  | acted hc hs hperform =>
    obtain ⟨t, -, ht⟩ := map_eq_ok.1 hperform
    cases ht
    obtain ⟨hlt, rfl⟩ := List.getElem?_eq_some_iff.1 hc
    exact List.set_getElem_self hlt

/-- A change of content leaves the numbers and the edits of all sequences as they are. -/
theorem exists_sequence_apply_modifyCurrent (h : w.Coherent) (j l : Nat) (f : α → α) {k : Nat}
    {s : Sequence α} (hs : w.sequences[k]? = some s) :
    ∃ s', (w.apply (.act j l (.modifyCurrent f) : Event α σ)).sequences[k]? = some s' ∧
      s'.number = s.number ∧ s'.edits = s.edits := by
  obtain ⟨s', hs', hnumber, hedits⟩ := exists_sequence_apply h (.act j l (.modifyCurrent f) : Event α σ) hs
  rcases hedits with ⟨⟨i, a, c, t, r, he, hedit, -⟩, -⟩ | ⟨-, hedits⟩
  · cases he
    cases hedit
  · exact ⟨s', hs', hnumber, hedits⟩

/-! ## Failing fast -/

/-- How the cursor at the place `i` fails that was created for the sequence at the place `k`. -/
structure FailsFast (events : List (Event α σ)) (i k : Nat) (c : Cursor) (s : Sequence α) : Prop where
  /-- On any other sequence it does not belong to it. -/
  foreign : ∀ (l : Nat) t (a : Action α σ), l ≠ k → (run events).sequences[l]? = some t → a.isIdle = false →
    a.perform c t = .error .foreignSequence
  /-- Once another cursor has edited its sequence it has not seen all edits. -/
  concurrent : ∀ before e after j (a : Action α σ), events = before ++ e :: after →
    i < (run before).cursors.length → j ≠ i → e.Edits (run before) j k → a.isIdle = false →
    a.perform c s = .error (.concurrentModification c.edits s.edits)
  /-- If it fails on its sequence, it does so forever. -/
  forever : c.check s ≠ .ok () → ∀ after c' s' (a : Action α σ), (run (events ++ after)).cursors[i]? = some c' →
    (run (events ++ after)).sequences[k]? = some s' → a.isIdle = false →
    a.perform c' s' = .error (.concurrentModification c'.edits s'.edits)
  /-- A change of content does not matter to it, whichever cursor and sequence it is done with. -/
  content : ∀ (j m : Nat) (f : α → α),
    ((run events).apply (.act j m (.modifyCurrent f) : Event α σ)).cursors[i]? = some c ∧
    ∀ (l : Nat) t, (run events).sequences[l]? = some t →
      ∃ t', ((run events).apply (.act j m (.modifyCurrent f) : Event α σ)).sequences[l]? = some t' ∧
        c.check t' = c.check t
  /-- Only a search over no steps does not fail. -/
  idle : ∀ t (a : Action α σ), a.isIdle = true → a.perform c t = .ok (.flag false, c, t)

/-- An edit by another cursor, however long ago, has made a cursor stale. -/
theorem stale_of_split {before after : List (Event α σ)} {e : Event α σ} {i j k : Nat}
    (hcreated : CreatedFor (before ++ e :: after) i k) (hi : i < (run before).cursors.length) (hne : j ≠ i)
    (hedits : e.Edits (run before) j k) : (run (before ++ e :: after)).Stale i k := by
  have hd : (run before).cursors[i]? = some (run before).cursors[i] := List.getElem?_eq_getElem hi
  have howner : (run before).cursors[i].owner = k := by
    have hbefore := (createdFor_iff hd _).2 rfl
    obtain ⟨c, hc, hk⟩ := hcreated.exists_cursor
    obtain ⟨c', hc', hk'⟩ := (hbefore.append (e :: after)).exists_cursor
    rw [hc] at hc'
    cases hc'
    exact hk'.symm.trans hk
  -- The edit makes the cursor stale, and nothing that happens later changes that.
  rw [run_append, List.foldl_cons]
  have hcoherent := coherent_run before
  have hstale := stale_of_edits hcoherent hd howner hne hedits
  exact stale_foldl (coherent_of_changes hcoherent (changes_apply _ e)) hstale after

/-- **Failing fast.** In every run each cursor was created for one sequence. On all others its actions fail, on this one
they fail as soon as another cursor has edited it and from then on, and changes of content do not count. Only searches
over no steps never fail. -/
theorem run_failsFast (events : List (Event α σ)) {i : Nat} {c : Cursor}
    (hc : (run events).cursors[i]? = some c) :
    ∃ k s, (∀ l, CreatedFor events i l ↔ l = k) ∧ (run events).sequences[k]? = some s ∧
      FailsFast events i k c s := by
  have hcoherent := coherent_run events
  have hlt : c.owner < (run events).sequences.length := hcoherent.owner hc
  have hs : (run events).sequences[c.owner]? = some (run events).sequences[c.owner] :=
    List.getElem?_eq_getElem hlt
  refine ⟨c.owner, _, createdFor_iff hc, hs, ?_⟩
  constructor
  · intro l t a hl ht ha
    have hnumber : t.number ≠ c.owner := by
      rw [hcoherent.number ht]
      exact hl
    exact Action.perform_of_check ha (Cursor.check_of_foreign hnumber)
  · -- Once another cursor has edited the sequence, the edits of this one are behind, and stay so.
    rintro before e after j a rfl hi hne hedits ha
    have hcreated := (createdFor_iff hc _).2 rfl
    exact (stale_of_split hcreated hi hne hedits).perform_eq hcoherent hc hs ha
  · intro hcheck after c' s' a hc' hs' ha
    have hstale := stale_foldl hcoherent (stale_of_check hcoherent hc hs hcheck) after
    rw [← run_append] at hstale
    exact hstale.perform_eq (coherent_run _) hc' hs' ha
  · intro j m f
    constructor
    · rw [cursors_apply_modifyCurrent]
      exact hc
    · intro l t ht
      obtain ⟨t', ht', hnumber, hedits⟩ := exists_sequence_apply_modifyCurrent hcoherent j m f ht
      exact ⟨t', ht', Cursor.check_congr hnumber hedits⟩
  · intro t a ha
    exact Action.perform_of_isIdle ha c t

/-- Two fragments of which a cursor removes the first one, with a copy of the cursor from before. -/
def removalBehindCopy : List (Event Fragment Unit) :=
  [.create (.listed [⟨['f', 'o', 'o'], .single 0, by decide⟩, ⟨['b', 'a', 'r'], .single 1, by decide⟩] [] .empty),
    .openCursor 0 0, .copyCursor 0, .act 0 0 .forward, .act 0 0 .remove]

/-- The copy has not seen the removal. -/
theorem run_failsFast_removalBehindCopy :
    ∃ c s, (run removalBehindCopy).cursors[1]? = some c ∧ (run removalBehindCopy).sequences[0]? = some s ∧
      FailsFast removalBehindCopy 1 0 c s ∧
      (Action.forward : Action Fragment Unit).perform c s = .error (.concurrentModification 0 1) := by
  have hc : (run removalBehindCopy).cursors[1]? = some ⟨0, 0, 0, none⟩ := rfl
  obtain ⟨k, s, hk, hs, hfails⟩ := run_failsFast removalBehindCopy hc
  have hopened : CreatedFor (removalBehindCopy.take 1 ++ [.openCursor 0 0]) 0 0 := .opened rfl rfl
  have hcopied : CreatedFor (removalBehindCopy.take 2 ++ [.copyCursor 0]) 1 0 := .copied hopened
  obtain rfl := (hk 0).1 (hcopied.append (removalBehindCopy.drop 3))
  have hremoval : (.act 0 0 .remove : Event Fragment Unit).Edits (run (removalBehindCopy.take 4)) 0 0 :=
    ⟨.remove, _, _, _, rfl, rfl, rfl, rfl, rfl⟩
  have hforward := hfails.concurrent (removalBehindCopy.take 4) (.act 0 0 .remove) [] 0 .forward rfl (by decide)
    (by decide) hremoval rfl
  have hedits : s.edits = 1 := by
    cases hs
    rfl
  rw [hedits] at hforward
  exact ⟨_, s, hc, hs, hfails, hforward⟩

/-- A search over no steps does not notice the removal. -/
theorem findNext_removalBehindCopy :
    ∃ c s, (run removalBehindCopy).cursors[1]? = some c ∧ (run removalBehindCopy).sequences[0]? = some s ∧
      c.check s = .error (.concurrentModification 0 1) ∧
      (Action.findNext (fun _ => pure true) () (some 0) : Action Fragment Unit).perform c s =
        .ok (.flag false, c, s) :=
  ⟨_, _, rfl, rfl, rfl, rfl⟩

end TextAnalysis.Workspace
