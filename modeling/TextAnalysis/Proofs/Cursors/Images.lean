/-
# Cursors and maps of tokens

The operations of a cursor do not look into the tokens of a sequence. So they commute with a map of all tokens: on the
mapped sequence an operation answers the mapped token and leaves the mapped sequence behind, if what it puts in is
mapped as well.
-/
import Mathlib.Data.List.InsertIdx
import TextAnalysis.Proofs.Cursors.Actions

namespace TextAnalysis

variable {α β σ : Type}

/-- The sequence with its tokens mapped and all else as it is. -/
def Sequence.image (f : α → β) (s : Sequence α) : Sequence β :=
  { tokens := s.tokens.map f, delimiter := s.delimiter, positions := s.positions, edits := s.edits,
    number := s.number }

@[simp] theorem Sequence.size_image (f : α → β) (s : Sequence α) : (s.image f).size = s.size :=
  List.length_map f

namespace Cursor

/-! ## Moves -/

@[simp] theorem check_image (c : Cursor) (f : α → β) (s : Sequence α) : c.check (s.image f) = c.check s :=
  rfl

@[simp] theorem tokenAt_image (f : α → β) (s : Sequence α) (i : Nat) :
    tokenAt (s.image f) i = (tokenAt s i).map f := by
  have hget : (s.image f).tokens[i]? = s.tokens[i]?.map f := List.getElem?_map
  unfold tokenAt
  rw [hget]
  cases s.tokens[i]? with
  | none => rfl
  | some t => rfl

@[simp] theorem hasNext_image (c : Cursor) (f : α → β) (s : Sequence α) : c.hasNext (s.image f) = c.hasNext s := by
  unfold hasNext
  rw [check_image, Sequence.size_image]

@[simp] theorem hasPrevious_image (c : Cursor) (f : α → β) (s : Sequence α) :
    c.hasPrevious (s.image f) = c.hasPrevious s :=
  rfl

theorem forward_image (c : Cursor) (f : α → β) (s : Sequence α) :
    c.forward (s.image f) = (c.forward s).map fun r => (f r.1, r.2) := by
  unfold forward
  rw [hasNext_image, tokenAt_image]
  cases c.hasNext s with
  | error e => rfl
  | ok b =>
    cases b with
    | false => rfl
    | true => cases tokenAt s c.next <;> rfl

theorem backward_image (c : Cursor) (f : α → β) (s : Sequence α) :
    c.backward (s.image f) = (c.backward s).map fun r => (f r.1, r.2) := by
  unfold backward
  rw [hasPrevious_image, tokenAt_image]
  cases c.hasPrevious s with
  | error e => rfl
  | ok b =>
    cases b with
    | false => rfl
    | true => cases tokenAt s (c.next - 1) <;> rfl

/-- What starts with the check and the index of the token visited last does the same on the mapped sequence, if it
goes on alike from every index. -/
theorem visited_bind_image {γ δ : Type} (c : Cursor) (f : α → β) (s : Sequence α) (g : γ → δ)
    {x : Nat → Except CursorError γ} {y : Nat → Except CursorError δ} (h : ∀ i, y i = (x i).map g) :
    (do
      c.check (s.image f)
      y (← c.visited)) = (do
      c.check s
      x (← c.visited)).map g := by
  rw [check_image]
  cases c.check s with
  | error e => rfl
  | ok _ =>
    cases c.visited with
    | error e => rfl
    | ok i => exact h i

/-- What reads a token does the same on the mapped sequence, if it goes on alike from every token. -/
theorem tokenAt_bind_image {γ δ : Type} (f : α → β) (s : Sequence α) (i : Nat) (g : γ → δ)
    {x : α → Except CursorError γ} {y : β → Except CursorError δ} (h : ∀ t, y (f t) = (x t).map g) :
    (tokenAt (s.image f) i >>= y) = (tokenAt s i >>= x).map g := by
  rw [tokenAt_image]
  cases tokenAt s i with
  | error e => rfl
  | ok t => exact h t

theorem current_image (c : Cursor) (f : α → β) (s : Sequence α) :
    c.current (s.image f) = (c.current s).map f := by
  unfold current
  refine visited_bind_image c f s f ?_
  intro i
  exact tokenAt_image f s i

/-! ## Edits -/

/-- What an edit leaves behind, with the sequence mapped. -/
def imageEdited (f : α → β) (r : Cursor × Sequence α) : Cursor × Sequence β :=
  (r.1, r.2.image f)

/-- A token and what an edit leaves behind, with the token and the sequence mapped. -/
def imageTaken (f : α → β) (r : α × Cursor × Sequence α) : β × Cursor × Sequence β :=
  (f r.1, imageEdited f r.2)

theorem modifyCurrent_image (c : Cursor) (f : α → β) (s : Sequence α) {g : α → α} {g' : β → β}
    (hg : ∀ t, g' (f t) = f (g t)) :
    c.modifyCurrent (s.image f) g' = (c.modifyCurrent s g).map (Sequence.image f) := by
  unfold modifyCurrent
  refine visited_bind_image c f s (Sequence.image f) ?_
  intro i
  refine tokenAt_bind_image f s i (Sequence.image f) ?_
  intro t
  show Except.ok _ = Except.ok _
  rw [hg, Sequence.image, Sequence.image, List.map_set]

theorem add_image (c : Cursor) (f : α → β) (s : Sequence α) (t : α) :
    c.add (s.image f) (f t) = (c.add s t).map (imageEdited f) := by
  unfold add
  refine visited_bind_image c f s (imageEdited f) ?_
  intro i
  show Except.ok (afterEdit _ _ ((s.tokens.map f).insertIdx i (f t))) = _
  rw [← List.map_insertIdx]
  rfl

theorem remove_image (c : Cursor) (f : α → β) (s : Sequence α) :
    c.remove (s.image f) = (c.remove s).map (imageTaken f) := by
  unfold remove
  refine visited_bind_image c f s (imageTaken f) ?_
  intro i
  refine tokenAt_bind_image f s i (imageTaken f) ?_
  intro t
  show Except.ok (f t, afterEdit _ _ ((s.tokens.map f).eraseIdx i)) = _
  rw [List.eraseIdx_map]
  rfl

theorem replace_image (c : Cursor) (f : α → β) (s : Sequence α) (t : α) :
    c.replace (s.image f) (f t) = (c.replace s t).map (imageTaken f) := by
  unfold replace
  refine visited_bind_image c f s (imageTaken f) ?_
  intro i
  refine tokenAt_bind_image f s i (imageTaken f) ?_
  intro old
  show Except.ok (f old, afterEdit _ _ ((s.tokens.map f).set i (f t))) = _
  rw [← List.map_set]
  rfl

theorem merge_image (c : Cursor) (f : α → β) (s : Sequence α) (other : Nat) {g : α → α → α} {g' : β → β → β}
    (hg : ∀ t u, g' (f t) (f u) = f (g t u)) :
    c.merge (s.image f) other g' = (c.merge s other g).map (imageEdited f) := by
  unfold merge
  refine visited_bind_image c f s (imageEdited f) ?_
  intro i
  rw [Sequence.size_image]
  by_cases hsize : s.size ≤ other
  · rw [if_pos hsize, if_pos hsize]
    rfl
  by_cases hsame : other = i
  · rw [if_neg hsize, if_neg hsize, if_pos hsame, if_pos hsame]
    rfl
  rw [if_neg hsize, if_neg hsize, if_neg hsame, if_neg hsame]
  refine tokenAt_bind_image f s i (imageEdited f) ?_
  intro t
  refine tokenAt_bind_image f s other (imageEdited f) ?_
  intro u
  show Except.ok (afterEdit _ _ (((s.tokens.map f).set (min i other) (g' (f t) (f u))).eraseIdx (max i other))) = _
  rw [hg, ← List.map_set, List.eraseIdx_map]
  rfl

theorem split_image (c : Cursor) (f : α → β) (s : Sequence α) {g : α → α × α} {g' : β → β × β}
    (hg : ∀ t, g' (f t) = (f (g t).1, f (g t).2)) :
    c.split (s.image f) g' = (c.split s g).map (imageEdited f) := by
  unfold split
  refine visited_bind_image c f s (imageEdited f) ?_
  intro i
  refine tokenAt_bind_image f s i (imageEdited f) ?_
  intro t
  rw [hg]
  show Except.ok (afterEdit _ _ (((s.tokens.map f).set i (f (g t).1)).insertIdx (i + 1) (f (g t).2))) = _
  rw [← List.map_set, ← List.map_insertIdx]
  rfl

/-! ## Searches -/

variable {m : Type → Type} [Monad m]

theorem seekForward_image (f : α → β) (s : Sequence α) (p : β → m Bool) (steps : Nat) (c : Cursor) :
    seekForward (s.image f) p steps c = seekForward s (fun t => p (f t)) steps c := by
  induction steps generalizing c with
  | zero => rfl
  | succ steps ih =>
    unfold seekForward
    rw [forward_image]
    cases c.forward s with
    | error e => cases e <;> rfl
    | ok r =>
      simp only [Except.map, ih, backward_image]
      cases r.2.backward s <;> rfl

theorem seekBackward_image (f : α → β) (s : Sequence α) (p : β → m Bool) (steps : Nat) (c : Cursor) :
    seekBackward (s.image f) p steps c = seekBackward s (fun t => p (f t)) steps c := by
  induction steps generalizing c with
  | zero => rfl
  | succ steps ih =>
    unfold seekBackward
    rw [backward_image]
    cases c.backward s with
    | error e => cases e <;> rfl
    | ok r =>
      simp only [Except.map, ih, forward_image]
      cases r.2.forward s <;> rfl

end Cursor

end TextAnalysis
