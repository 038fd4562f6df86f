/-
# Actions of a cursor

The operations of a cursor as data, with their arguments. An action is done by a cursor on a sequence. Five of them
edit the structure of the sequence and count the edit; the others at most move the cursor or change the content of a
token. All of them check first whether the cursor follows the sequence, except a search over no steps, which does not
look at the sequence at all.
-/
import TextAnalysis.Proofs.Cursors

namespace TextAnalysis.Cursor

variable {α σ : Type}

/-! ## Actions -/

/-- What an action answers. -/
inductive Answer (α : Type) where
  | nothing
  | token (t : α)
  | flag (b : Bool)
  | index (i : Option Nat)

/-- An operation of a cursor with its arguments. The predicate of a search may have effects on a state of its own,
which is given at the start. -/
inductive Action (α σ : Type) where
  | hasNext
  | hasPrevious
  | nextIndex
  | previousIndex
  | forward
  | backward
  | current
  | modifyCurrent (f : α → α)
  | add (t : α)
  | remove
  | replace (t : α)
  | merge (other : Nat) (combine : α → α → α)
  | split (divide : α → α × α)
  | findNext (p : α → StateM σ Bool) (start : σ) (limit : Option Nat)
  | findPrevious (p : α → StateM σ Bool) (start : σ) (limit : Option Nat)

/-- What a computation with effects comes to, without the state that it ends in. -/
def outcome {β : Type} (x : StateM σ β) (start : σ) : β :=
  (Id.run (x.run start)).1

/-- The state that a computation with effects ends in. -/
def finish {β : Type} (x : StateM σ β) (start : σ) : σ :=
  (Id.run (x.run start)).2

namespace Action

/-- Does an action: the answer, the cursor and the sequence afterwards. -/
def perform (a : Action α σ) (c : Cursor) (s : Sequence α) :
    Except CursorError (Answer α × Cursor × Sequence α) :=
  match a with
  | hasNext => (c.hasNext s).map fun b => (.flag b, c, s)
  | hasPrevious => (c.hasPrevious s).map fun b => (.flag b, c, s)
  | nextIndex => (c.nextIndex s).map fun i => (.index i, c, s)
  | previousIndex => (c.previousIndex s).map fun i => (.index i, c, s)
  | forward => (c.forward s).map fun (t, c) => (.token t, c, s)
  | backward => (c.backward s).map fun (t, c) => (.token t, c, s)
  | current => (c.current s).map fun t => (.token t, c, s)
  | modifyCurrent f => (c.modifyCurrent s f).map fun s => (.nothing, c, s)
  | add t => (c.add s t).map fun (c, s) => (.nothing, c, s)
  | remove => (c.remove s).map fun (t, c, s) => (.token t, c, s)
  | replace t => (c.replace s t).map fun (t, c, s) => (.token t, c, s)
  | merge other combine => (c.merge s other combine).map fun (c, s) => (.nothing, c, s)
  | split divide => (c.split s divide).map fun (c, s) => (.nothing, c, s)
  | findNext p start limit =>
    (outcome (c.findNextM s p limit) start).map fun (b, c) => (.flag b, c, s)
  | findPrevious p start limit =>
    (outcome (c.findPreviousM s p limit) start).map fun (b, c) => (.flag b, c, s)

/-- Whether an action edits the structure of the sequence. -/
def isEdit : Action α σ → Bool
  | add _ | remove | replace _ | merge _ _ | split _ => true
  | _ => false

/-- By how much an action that succeeds changes the size of a sequence. -/
def growth : Action α σ → Int
  | add _ | split _ => 1
  | remove | merge _ _ => -1
  | _ => 0

/-- Whether an action is a search over no steps. -/
def isIdle : Action α σ → Bool
  | findNext _ _ (some 0) | findPrevious _ _ (some 0) => true
  | _ => false

/-- Whether an action needs a token that was visited last. -/
def usesVisited : Action α σ → Bool
  | current | modifyCurrent _ | add _ | remove | replace _ | merge _ _ | split _ => true
  | _ => false

/-- Every edit is done at the token visited last. -/
theorem usesVisited_of_isEdit {a : Action α σ} (h : a.isEdit = true) : a.usesVisited = true := by
  cases a with
  | add | remove | replace | merge | split => rfl
  | _ => cases h

/-- Only edits change the size. -/
theorem growth_of_not_isEdit {a : Action α σ} (h : a.isEdit = false) : a.growth = 0 := by
  cases a with
  | add | remove | replace | merge | split => cases h
  | _ => rfl

/-- A search is no edit. -/
theorem isIdle_of_isEdit {a : Action α σ} (h : a.isEdit = true) : a.isIdle = false := by
  cases a with
  | findNext | findPrevious => cases h
  | _ => rfl

end Action

/-! ## Checks -/

/-- A check that fails tells a sequence of another number from edits that the cursor has not seen. -/
theorem check_error_cases {c : Cursor} {s : Sequence α} {e : CursorError} (h : c.check s = .error e) :
    (s.number ≠ c.owner ∧ e = .foreignSequence) ∨
      (s.number = c.owner ∧ s.edits ≠ c.edits ∧ e = .concurrentModification c.edits s.edits) := by
  unfold check at h
  split at h
  · rename_i hnumber
    exact .inl ⟨hnumber, (Except.error.inj h).symm⟩
  · rename_i hnumber
    split at h
    · rename_i hedits
      exact .inr ⟨not_not.1 hnumber, hedits, (Except.error.inj h).symm⟩
    · cases h

theorem check_of_foreign {c : Cursor} {s : Sequence α} (h : s.number ≠ c.owner) :
    c.check s = .error .foreignSequence := by
  unfold check
  rw [if_pos h]

theorem check_of_unseen {c : Cursor} {s : Sequence α} (hnumber : s.number = c.owner)
    (hedits : s.edits ≠ c.edits) : c.check s = .error (.concurrentModification c.edits s.edits) := by
  unfold check
  rw [if_neg (not_not.2 hnumber), if_pos hedits]

/-- What a check answers depends on the number and the edits of the sequence alone. -/
theorem check_congr {c : Cursor} {s s' : Sequence α} (hnumber : s'.number = s.number)
    (hedits : s'.edits = s.edits) : c.check s' = c.check s := by
  unfold check
  rw [hnumber, hedits]

section Steps

variable {c : Cursor} {s : Sequence α} {e : CursorError}

theorem hasNext_of_check (h : c.check s = .error e) : c.hasNext s = .error e := by
  unfold hasNext
  rw [h]
  rfl

theorem hasPrevious_of_check (h : c.check s = .error e) : c.hasPrevious s = .error e := by
  unfold hasPrevious
  rw [h]
  rfl

theorem forward_of_check (h : c.check s = .error e) : c.forward s = .error e := by
  unfold forward
  rw [hasNext_of_check h]
  rfl

theorem backward_of_check (h : c.check s = .error e) : c.backward s = .error e := by
  unfold backward
  rw [hasPrevious_of_check h]
  rfl

/-- After a step forward to a token, a search steps back over it if the predicate holds, and otherwise goes on in the
state that the predicate has left. -/
theorem seekForward_of_forward {c' : Cursor} {t : α} (h : c.forward s = .ok (t, c')) (p : α → StateM σ Bool)
    (start : σ) (steps : Nat) :
    outcome (seekForward s p (steps + 1) c) start =
      if outcome (p t) start then (c'.backward s).map fun found => (true, found.2)
      else outcome (seekForward s p steps c') (finish (p t) start) := by
  rw [seekForward, h]
  show outcome (if outcome (p t) start then _ else _) (finish (p t) start) = _
  split
  · rfl
  · rfl

/-- After a step back to a token, a search steps forward over it if the predicate holds, and otherwise goes on. -/
theorem seekBackward_of_backward {c' : Cursor} {t : α} (h : c.backward s = .ok (t, c'))
    (p : α → StateM σ Bool) (start : σ) (steps : Nat) :
    outcome (seekBackward s p (steps + 1) c) start =
      if outcome (p t) start then (c'.forward s).map fun found => (true, found.2)
      else outcome (seekBackward s p steps c') (finish (p t) start) := by
  rw [seekBackward, h]
  show outcome (if outcome (p t) start then _ else _) (finish (p t) start) = _
  split
  · rfl
  · rfl

/-- Where there is no token ahead, a search ends. -/
theorem seekForward_of_end (h : c.forward s = .error .noSuchElement) (p : α → StateM σ Bool) (start : σ)
    (steps : Nat) : outcome (seekForward s p (steps + 1) c) start = .ok (false, c) := by
  unfold seekForward
  rw [h]
  rfl

theorem seekBackward_of_end (h : c.backward s = .error .noSuchElement) (p : α → StateM σ Bool) (start : σ)
    (steps : Nat) : outcome (seekBackward s p (steps + 1) c) start = .ok (false, c) := by
  unfold seekBackward
  rw [h]
  rfl

/-- A search over at least one step fails as the check does. -/
theorem seekForward_of_check (h : c.check s = .error e) (p : α → StateM σ Bool) (start : σ) (steps : Nat) :
    outcome (seekForward s p (steps + 1) c) start = .error e := by
  unfold seekForward
  rw [forward_of_check h]
  rcases check_error_cases h with ⟨-, rfl⟩ | ⟨-, -, rfl⟩
  · rfl
  · rfl

theorem seekBackward_of_check (h : c.check s = .error e) (p : α → StateM σ Bool) (start : σ) (steps : Nat) :
    outcome (seekBackward s p (steps + 1) c) start = .error e := by
  unfold seekBackward
  rw [backward_of_check h]
  rcases check_error_cases h with ⟨-, rfl⟩ | ⟨-, -, rfl⟩
  · rfl
  · rfl

namespace Action

/-- The number of steps of a search that is not idle. -/
theorem exists_steps {limit : Option Nat} (h : limit ≠ some 0) (size : Nat) :
    ∃ steps, limit.getD (size + 1) = steps + 1 := by
  cases limit with
  | none => exact ⟨size, rfl⟩
  | some n =>
    cases n with
    | zero => exact absurd rfl h
    | succ n => exact ⟨n, rfl⟩

/-- Every action that is not idle checks first, and fails as the check does. -/
theorem perform_of_check {a : Action α σ} (ha : a.isIdle = false) (h : c.check s = .error e) :
    a.perform c s = .error e := by
  cases a with
  | hasNext =>
    rw [perform, hasNext_of_check h]
    rfl
  | hasPrevious =>
    rw [perform, hasPrevious_of_check h]
    rfl
  | nextIndex =>
    rw [perform, Cursor.nextIndex, hasNext_of_check h]
    rfl
  | previousIndex =>
    rw [perform, Cursor.previousIndex, hasPrevious_of_check h]
    rfl
  | forward =>
    rw [perform, forward_of_check h]
    rfl
  | backward =>
    rw [perform, backward_of_check h]
    rfl
  | current =>
    rw [perform, Cursor.current, h]
    rfl
  | modifyCurrent f =>
    rw [perform, Cursor.modifyCurrent, h]
    rfl
  | add t =>
    rw [perform, Cursor.add, h]
    rfl
  | remove =>
    rw [perform, Cursor.remove, h]
    rfl
  | replace t =>
    rw [perform, Cursor.replace, h]
    rfl
  | merge other combine =>
    rw [perform, Cursor.merge, h]
    rfl
  | split divide =>
    rw [perform, Cursor.split, h]
    rfl
  | findNext p start limit =>
    -- A search over no steps would be idle. Any other takes a step, and every step checks.
    have hlimit : limit ≠ some 0 := by
      rintro rfl
      cases ha
    obtain ⟨steps, hsteps⟩ := exists_steps hlimit s.size
    rw [perform, findNextM, hsteps, seekForward_of_check h]
    rfl
  | findPrevious p start limit =>
    have hlimit : limit ≠ some 0 := by
      rintro rfl
      cases ha
    obtain ⟨steps, hsteps⟩ := exists_steps hlimit s.size
    rw [perform, findPreviousM, hsteps, seekBackward_of_check h]
    rfl

/-- An idle action finds nothing and changes nothing, whatever the sequence. -/
theorem perform_of_isIdle {a : Action α σ} (ha : a.isIdle = true) (c : Cursor) (s : Sequence α) :
    a.perform c s = .ok (.flag false, c, s) := by
  cases a with
  | findNext p start limit =>
    match limit, ha with
    | some 0, _ => rfl
  | findPrevious p start limit =>
    match limit, ha with
    | some 0, _ => rfl
  | _ => cases ha

end Action

end Steps

end TextAnalysis.Cursor
