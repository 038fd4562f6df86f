/-
# Safety of cursors

In every run each cursor that follows a sequence stands within its bounds. So no step of an action is out of bounds,
an action that fails leaves the cursor and the sequence as they were, and a sequence counts an edit exactly when one
succeeds.
-/
import TextAnalysis.Proofs.Workspaces.Runs
import TextAnalysis.Proofs.Cursors.InPlace

namespace TextAnalysis

open Cursor (Action Keeps Advances)

/-! ## Sound cursors -/

namespace Cursor

variable {α : Type} {c : Cursor} {s s' : Sequence α}

/-- The cursor has seen no more edits than there are, and if it has seen all of them it stands within the bounds. -/
structure Sound (c : Cursor) (s : Sequence α) : Prop where
  seen : c.edits ≤ s.edits
  inRange : c.edits = s.edits → c.InRange s

/-- A cursor stays sound while the edits and the size of the sequence stay the same. -/
theorem Sound.congr (h : c.Sound s) (hedits : s'.edits = s.edits) (hsize : s'.size = s.size) : c.Sound s' := by
  constructor
  · rw [hedits]
    exact h.seen
  · intro hseen
    exact (h.inRange (hseen.trans hedits)).congr hsize

/-- A cursor that has not seen the last edit is sound, wherever it stands. -/
theorem Sound.of_edits_lt (h : c.edits < s.edits) : c.Sound s :=
  ⟨Nat.le_of_lt h, fun hseen => absurd hseen (Nat.ne_of_lt h)⟩

/-- A new cursor is sound. -/
theorem sound_of_start {index : Nat} (h : start s index = .ok c) : c.owner = s.number ∧ c.Sound s := by
  unfold start at h
  split at h
  · cases h
  · rename_i hindex
    cases h
    refine ⟨rfl, Nat.le_refl _, ?_⟩
    intro _
    constructor
    · exact Nat.not_lt.1 hindex
    · intro i hi
      cases hi

end Cursor

namespace Workspace

variable {α σ : Type} {w : Workspace α}

/-! ## Coherent workspaces -/

/-- Sequences are numbered by their places, and every cursor belongs to one of them and is sound on it. -/
structure Coherent (w : Workspace α) : Prop where
  number : ∀ {k : Nat} {s : Sequence α}, w.sequences[k]? = some s → s.number = k
  owner : ∀ {i : Nat} {c : Cursor}, w.cursors[i]? = some c → c.owner < w.sequences.length
  sound : ∀ {i : Nat} {c : Cursor} {k : Nat} {s : Sequence α}, w.cursors[i]? = some c →
    w.sequences[k]? = some s → c.owner = k → c.Sound s

theorem coherent_empty : Coherent ({} : Workspace α) :=
  ⟨nofun, nofun, nofun⟩

/-- A new sequence has a number that no cursor knows. -/
theorem coherent_addSequence (h : w.Coherent) (s : Sequence α) : (w.addSequence s).Coherent := by
  constructor
  · intro k t ht
    rcases getElem?_concat_cases ht with ht | ⟨rfl, rfl⟩
    · exact h.number ht
    · rfl
  · intro i c hc
    show c.owner < (w.sequences ++ [_]).length
    rw [List.length_append]
    exact Nat.lt_add_right 1 (h.owner hc)
  · intro i c k t hc ht howner
    rcases getElem?_concat_cases ht with ht | ⟨rfl, -⟩
    · exact h.sound hc ht howner
    · exact absurd howner (Nat.ne_of_lt (h.owner hc))

/-- A new cursor must belong to a sequence and be sound on it. -/
theorem coherent_addCursor (h : w.Coherent) {c : Cursor} (howner : c.owner < w.sequences.length)
    (hsound : ∀ s, w.sequences[c.owner]? = some s → c.Sound s) : (w.addCursor c).Coherent := by
  constructor
  · exact h.number
  · intro i c' hc'
    rcases getElem?_concat_cases hc' with hc' | ⟨-, rfl⟩
    · exact h.owner hc'
    · exact howner
  · intro i c' k s hc' hs hk
    rcases getElem?_concat_cases hc' with hc' | ⟨-, rfl⟩
    · exact h.sound hc' hs hk
    · subst hk
      exact hsound s hs

/-- A sequence may change as long as its number stays and the cursors that are sound on it stay so. -/
theorem coherent_setSequence (h : w.Coherent) {k : Nat} {s s' : Sequence α} (hs : w.sequences[k]? = some s)
    (hnumber : s'.number = s.number) (hsound : ∀ c : Cursor, c.Sound s → c.Sound s') :
    (w.setSequence k s').Coherent := by
  constructor
  · intro k' t ht
    rcases getElem?_set_cases ht with ⟨rfl, rfl⟩ | ⟨-, ht⟩
    · exact hnumber.trans (h.number hs)
    · exact h.number ht
  · intro i c hc
    show c.owner < (w.sequences.set k s').length
    rw [List.length_set]
    exact h.owner hc
  · intro i c k' t hc ht howner
    rcases getElem?_set_cases ht with ⟨rfl, rfl⟩ | ⟨-, ht⟩
    · exact hsound c (h.sound hc hs howner)
    · exact h.sound hc ht howner

/-- A cursor may change if it keeps its owner and is sound on its sequence. -/
theorem coherent_setCursor (h : w.Coherent) {i : Nat} {c c' : Cursor} (hc : w.cursors[i]? = some c)
    (howner : c'.owner = c.owner) (hsound : ∀ s, w.sequences[c.owner]? = some s → c'.Sound s) :
    (w.setCursor i c').Coherent := by
  constructor
  · exact h.number
  · intro j d hd
    rcases getElem?_set_cases hd with ⟨-, rfl⟩ | ⟨-, hd⟩
    · rw [howner]
      exact h.owner hc
    · exact h.owner hd
  · intro j d k s hd hs hk
    rcases getElem?_set_cases hd with ⟨-, rfl⟩ | ⟨-, hd⟩
    · rw [howner] at hk
      subst hk
      exact hsound s hs
    · exact h.sound hd hs hk

/-- A cursor that follows a sequence belongs to its place, and stands within its bounds. -/
theorem Coherent.inRange (h : w.Coherent) {i k : Nat} {c : Cursor} {s : Sequence α}
    (hc : w.cursors[i]? = some c) (hs : w.sequences[k]? = some s) (hfollows : c.Follows s) : c.InRange s := by
  have howner : c.owner = k := hfollows.1.trans (h.number hs)
  exact (h.sound hc hs howner).inRange hfollows.2

/-- An action that succeeds, done by a cursor of the workspace, keeps the workspace coherent. -/
theorem coherent_act (h : w.Coherent) {i k : Nat} {c c' : Cursor} {s s' : Sequence α} {a : Action α σ}
    {x : Cursor.Answer α} (hc : w.cursors[i]? = some c) (hs : w.sequences[k]? = some s)
    (hperform : a.perform c s = .ok (x, c', s')) : ((w.setCursor i c').setSequence k s').Coherent := by
  have hsound : c.Follows s → c.InRange s := h.inRange hc hs
  have hswap : (w.setCursor i c').setSequence k s' = (w.setSequence k s').setCursor i c' := rfl
  rw [hswap]
  -- The sequence changes first: a cursor that has seen an edit too many would not be sound on the old one.
  by_cases hedit : a.isEdit = true
  · have hadvances := a.advances_of_perform hedit hsound hperform
    have howner : c.owner = k := hadvances.follows.1.trans (h.number hs)
    have hothers : ∀ d : Cursor, d.Sound s → d.Sound s' := by
      intro d hd
      refine .of_edits_lt ?_
      have hseen := hd.seen
      have hedits := hadvances.edits
      omega
    refine coherent_setCursor (coherent_setSequence h hs hadvances.number hothers) hc hadvances.owner ?_
    intro t ht
    rcases getElem?_set_cases ht with ⟨-, rfl⟩ | ⟨hne, -⟩
    · exact ⟨Nat.le_of_eq hadvances.seen, fun _ => hadvances.inRange⟩
    · exact absurd howner hne
  · rw [Bool.not_eq_true] at hedit
    have hkeeps := a.keeps_of_perform hedit hsound hperform
    have hothers : ∀ d : Cursor, d.Sound s → d.Sound s' := by
      intro d hd
      exact hd.congr hkeeps.edits hkeeps.size
    refine coherent_setCursor (coherent_setSequence h hs hkeeps.number hothers) hc hkeeps.owner ?_
    intro t ht
    -- The cursor may be on a sequence that is not its own, but then it has not moved.
    rcases hkeeps.place with rfl | ⟨hfollows, hrange⟩
    · rcases getElem?_set_cases ht with ⟨howner, rfl⟩ | ⟨-, ht⟩
      · exact hothers c' (h.sound hc hs howner)
      · exact h.sound hc ht rfl
    · have howner : c.owner = k := hfollows.1.trans (h.number hs)
      have hseen : c'.edits = s'.edits := by
        rw [hkeeps.seen, hkeeps.edits, hfollows.2]
      rcases getElem?_set_cases ht with ⟨-, rfl⟩ | ⟨hne, -⟩
      · exact ⟨Nat.le_of_eq hseen, fun _ => hrange⟩
      · exact absurd howner hne

/-- What is put back unchanged changes nothing. -/
theorem setCursor_setSequence_self {i k : Nat} {c : Cursor} {s : Sequence α} (hc : w.cursors[i]? = some c)
    (hs : w.sequences[k]? = some s) : (w.setCursor i c).setSequence k s = w := by
  obtain ⟨hi, rfl⟩ := List.getElem?_eq_some_iff.1 hc
  obtain ⟨hk, rfl⟩ := List.getElem?_eq_some_iff.1 hs
  show (⟨w.sequences.set k w.sequences[k], w.cursors.set i w.cursors[i]⟩ : Workspace α) = w
  rw [List.set_getElem_self, List.set_getElem_self]

/-! ## Runs -/

variable [Token α]

/-- Every change keeps a workspace coherent. -/
theorem coherent_of_changes {w' : Workspace α} {e : Event α σ} (h : w.Coherent) (hchanges : Changes w e w') :
    w'.Coherent := by
  cases hchanges with
  | nothing => exact h
  | created source s => exact coherent_addSequence h s
  | labelled delimiter positions hs =>
    refine coherent_setSequence h hs rfl ?_
    intro c hc
    exact hc.congr rfl rfl
  | opened hs hstart =>
    obtain ⟨howner, hsound⟩ := Cursor.sound_of_start hstart
    have hplace := howner.trans (h.number hs)
    refine coherent_addCursor h ?_ ?_
    · rw [hplace]
      exact (List.getElem?_eq_some_iff.1 hs).1
    · -- The only sequence with the number of the new cursor is the one that it was opened on.
      intro t ht
      rw [hplace, hs] at ht
      cases ht
      exact hsound
  | copied hc =>
    refine coherent_addCursor h (h.owner hc) ?_
    intro s hs
    exact h.sound hc hs rfl
  | acted hc hs hperform => exact coherent_act h hc hs hperform

/-- Every run leads to a coherent workspace. -/
theorem coherent_run (events : List (Event α σ)) : (run events).Coherent := by
  induction events using List.reverseRecOn with
  | nil => exact coherent_empty
  | append_singleton events e ih =>
    rw [run_concat]
    exact coherent_of_changes ih (changes_apply _ e)

/-- An edit that succeeds adds one to the edits of its sequence. -/
theorem exists_sequence_of_edits (h : w.Coherent) {e : Event α σ} {i k : Nat} (hedits : e.Edits w i k) :
    ∃ c s c' s', w.cursors[i]? = some c ∧ w.sequences[k]? = some s ∧ Advances c s c' s' ∧
      w.apply e = (w.setCursor i c').setSequence k s' := by
  obtain ⟨a, c, s, ⟨x, c', s'⟩, rfl, hedit, hc, hs, hperform⟩ := hedits
  have hadvances := a.advances_of_perform hedit (h.inRange hc hs) hperform
  exact ⟨c, s, c', s', hc, hs, hadvances, apply_act hc hs hperform⟩

/-- A sequence stays in its place. Its edits grow by one at an edit that succeeds, and by nothing else. -/
theorem exists_sequence_apply (h : w.Coherent) (e : Event α σ) {k : Nat} {s : Sequence α}
    (hs : w.sequences[k]? = some s) :
    ∃ s', (w.apply e).sequences[k]? = some s' ∧ s'.number = s.number ∧
      ((∃ i, e.Edits w i k) ∧ s'.edits = s.edits + 1 ∨ (¬ ∃ i, e.Edits w i k) ∧ s'.edits = s.edits) := by
  have hlt : k < w.sequences.length := (List.getElem?_eq_some_iff.1 hs).1
  by_cases hedits : ∃ i, e.Edits w i k
  · obtain ⟨i, hi⟩ := hedits
    obtain ⟨c, t, c', s', -, ht, hadvances, happly⟩ := exists_sequence_of_edits h hi
    rw [hs] at ht
    cases ht
    rw [happly]
    exact ⟨s', List.getElem?_set_self hlt, hadvances.number, .inl ⟨⟨i, hi⟩, hadvances.edits⟩⟩
  · -- Whatever else happens changes at most the content of the sequence.
    have hchanges := changes_apply w e
    generalize w.apply e = w' at hchanges
    cases hchanges with
    | nothing => exact ⟨s, hs, rfl, .inr ⟨hedits, rfl⟩⟩
    | created source t =>
      exact ⟨s, (List.getElem?_append_left hlt).trans hs, rfl, .inr ⟨hedits, rfl⟩⟩
    | opened => exact ⟨s, hs, rfl, .inr ⟨hedits, rfl⟩⟩
    | copied => exact ⟨s, hs, rfl, .inr ⟨hedits, rfl⟩⟩
    | @labelled _ k' t delimiter positions ht =>
      by_cases hk : k' = k
      · subst hk
        rw [hs] at ht
        cases ht
        exact ⟨_, List.getElem?_set_self hlt, rfl, .inr ⟨hedits, rfl⟩⟩
      · exact ⟨s, (List.getElem?_set_ne hk).trans hs, rfl, .inr ⟨hedits, rfl⟩⟩
    | @acted i k' a x c c' t t' hc ht hperform =>
      by_cases hk : k' = k
      · subst hk
        rw [hs] at ht
        cases ht
        have hedit : a.isEdit = false := by
          rw [← Bool.not_eq_true]
          intro hedit
          exact hedits ⟨i, a, c, s, _, rfl, hedit, hc, hs, hperform⟩
        have hkeeps := a.keeps_of_perform hedit (h.inRange hc hs) hperform
        exact ⟨t', List.getElem?_set_self hlt, hkeeps.number, .inr ⟨hedits, hkeeps.edits⟩⟩
      · exact ⟨s, (List.getElem?_set_ne hk).trans hs, rfl, .inr ⟨hedits, rfl⟩⟩

/-! ## Runs in place -/

/-- What an event leaves behind if actions are done in place, also where they stop before their end. -/
def applyInPlace (w : Workspace α) : Event α σ → Workspace α
  | .act i k a =>
    match w.cursors[i]?, w.sequences[k]? with
    | some c, some s =>
      match a.steps ⟨c, s⟩ with
      | .ok _ x | .error _ x => (w.setCursor i x.cursor).setSequence k x.sequence
    | _, _ => w
  | e => w.apply e

/-- The workspace after events whose actions are done in place. -/
def runInPlace (events : List (Event α σ)) : Workspace α :=
  events.foldl applyInPlace {}

/-- In a coherent workspace it does not matter whether actions are done in place. -/
theorem applyInPlace_eq (h : w.Coherent) (e : Event α σ) : w.applyInPlace e = w.apply e := by
  -- Only actions take steps, and only those whose cursor and sequence there are.
  cases e with
  | act i k a =>
    cases hc : w.cursors[i]? with
    | none =>
      have hnext : w.next? (.act i k a) = none := by
        rw [next?, hc]
        rfl
      rw [applyInPlace, hc, apply_of_none hnext]
    | some c =>
      cases hs : w.sequences[k]? with
      | none =>
        have hnext : w.next? (.act i k a) = none := by
          rw [next?, hc, hs]
          rfl
        rw [applyInPlace, hc, hs, apply_of_none hnext]
      | some s =>
        have hsteps := a.steps_eq (h.inRange hc hs)
        cases hperform : a.perform c s with
        | ok r =>
          rw [applyInPlace, hc, hs, apply_act hc hs hperform]
          simp only [hsteps, hperform, Cursor.report]
        | error e =>
          rw [applyInPlace, hc, hs, apply_act_of_error hc hs hperform]
          simp only [hsteps, hperform, Cursor.report]
          exact setCursor_setSequence_self hc hs
  | _ => rfl

/-- A run whose actions are done in place leads to the same workspace. -/
theorem runInPlace_eq (events : List (Event α σ)) : runInPlace events = run events := by
  induction events using List.reverseRecOn with
  | nil => rfl
  | append_singleton events e ih =>
    have hrun : runInPlace (events ++ [e]) = (runInPlace events).applyInPlace e := by
      unfold runInPlace
      rw [List.foldl_concat]
    rw [hrun, ih, run_concat, applyInPlace_eq (coherent_run events)]

/-- **Safety of cursors.** A run may as well be done in place. In the workspace that it leads to, every cursor that
follows a sequence stands within its bounds. Whatever action any cursor does on any sequence, no step of it is out of
bounds: it comes to an answer, or it reports a misuse and leaves the cursor and the sequence as they were. And
whatever happens next, every sequence stays and adds one to its edits if an edit of it succeeds, and nothing
otherwise. -/
theorem run_safe (events : List (Event α σ)) :
    runInPlace events = run events ∧
    (∀ (i : Nat) c (k : Nat) s, (run events).cursors[i]? = some c → (run events).sequences[k]? = some s →
      (c.Follows s → c.InRange s) ∧
      ∀ a : Action α σ,
        (∃ x c' s', a.perform c s = .ok (x, c', s') ∧ a.steps ⟨c, s⟩ = .ok x ⟨c', s'⟩) ∨
        (∃ e, a.perform c s = .error e ∧ a.steps ⟨c, s⟩ = .error (.misuse e) ⟨c, s⟩)) ∧
    (∀ (e : Event α σ) (k : Nat) s, (run events).sequences[k]? = some s →
      ∃ s', ((run events).apply e).sequences[k]? = some s' ∧ s'.number = s.number ∧
        ((∃ i, e.Edits (run events) i k) ∧ s'.edits = s.edits + 1 ∨
          (¬ ∃ i, e.Edits (run events) i k) ∧ s'.edits = s.edits)) := by
  have hcoherent := coherent_run events
  refine ⟨runInPlace_eq events, ?_, fun e k s hs => exists_sequence_apply hcoherent e hs⟩
  intro i c k s hc hs
  have hsound : c.Follows s → c.InRange s := hcoherent.inRange hc hs
  refine ⟨hsound, ?_⟩
  intro a
  have hsteps := a.steps_eq hsound
  cases hperform : a.perform c s with
  | ok r =>
    rw [hperform] at hsteps
    exact .inl ⟨r.1, r.2.1, r.2.2, rfl, hsteps⟩
  | error e =>
    rw [hperform] at hsteps
    exact .inr ⟨e, rfl, hsteps⟩

end Workspace

end TextAnalysis
