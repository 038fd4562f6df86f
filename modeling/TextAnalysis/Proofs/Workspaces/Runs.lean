/-
# Runs of a workspace

A run is a list of events: sequences are created or copied, cursors are created or copied, and actions are done by any
cursor on any sequence. An event that fails, or that names a sequence or a cursor that is not there, changes nothing.
A sequence or a cursor is named by its place in the order of creation, and the number of a sequence is its place.
Tokens of several kinds are tokens of their sum.
-/
import Mathlib.Data.List.Induction
import TextAnalysis.Sequence.Workspace
import TextAnalysis.Proofs.Cursors.Effects

namespace TextAnalysis.Workspace

open Cursor (Action)

variable {α σ : Type}

/-! ## Events -/

/-- What a new sequence is made of: tokens as they are given, tokens in the order of their positions, or the tokens of
the sequence at a place, which may be mapped, or copied with the count of its edits. -/
inductive Source (α : Type) where
  | listed (tokens : List α) (delimiter : Text) (positions : Positions)
  | sorted (tokens : List α)
  | mapped (k : Nat) (f : α → α)
  | tryMapped (k : Nat) (f : α → Except Error α)
  | copied (k : Nat)

/-- The sequence of a source, unless its place is empty or its tokens cannot be mapped. -/
def Source.sequence? [Token α] (w : Workspace α) : Source α → Option (Sequence α)
  | listed tokens delimiter positions => some { tokens, delimiter, positions }
  | sorted tokens => some (.sorted tokens)
  | mapped k f => (w.sequences[k]?).map (Sequence.map f)
  | tryMapped k f => (w.sequences[k]?).bind fun s => (s.tryMap f).toOption
  | copied k => w.sequences[k]?

/-- One thing that happens in a workspace. -/
inductive Event (α σ : Type) where
  | create (source : Source α)
  | setDelimiter (k : Nat) (delimiter : Text)
  | addPosition (k : Nat) (position : Nat)
  | openCursor (k : Nat) (index : Nat)
  | copyCursor (i : Nat)
  | act (i k : Nat) (a : Action α σ)

/-- The workspace after an event that does not fail. -/
def next? [Token α] (w : Workspace α) : Event α σ → Option (Workspace α)
  | .create source => (source.sequence? w).map w.addSequence
  | .setDelimiter k delimiter => (w.sequences[k]?).map fun s => w.setSequence k { s with delimiter }
  | .addPosition k position => (w.sequences[k]?).map fun s => w.setSequence k (s.addPosition position)
  | .openCursor k index => do
    let s ← w.sequences[k]?
    let c ← (Cursor.start s index).toOption
    return w.addCursor c
  | .copyCursor i => (w.cursors[i]?).map w.addCursor
  | .act i k a => do
    let c ← w.cursors[i]?
    let s ← w.sequences[k]?
    let (_, c, s) ← (a.perform c s).toOption
    return (w.setCursor i c).setSequence k s

/-- The workspace after an event. -/
def apply [Token α] (w : Workspace α) (e : Event α σ) : Workspace α :=
  (w.next? e).getD w

/-- The workspace after events, which starts without sequences and cursors. -/
def run [Token α] (events : List (Event α σ)) : Workspace α :=
  events.foldl apply {}

@[simp] theorem run_concat [Token α] (events : List (Event α σ)) (e : Event α σ) :
    run (events ++ [e]) = (run events).apply e := by
  unfold run
  rw [List.foldl_concat]

theorem run_append [Token α] (before after : List (Event α σ)) :
    run (before ++ after) = after.foldl apply (run before) := by
  unfold run
  rw [List.foldl_append]

/-- The event is an edit of the sequence at the place `k`, done by the cursor at the place `i`, that succeeds. -/
def Event.Edits (e : Event α σ) (w : Workspace α) (i k : Nat) : Prop :=
  ∃ a c s r, e = .act i k a ∧ a.isEdit = true ∧ w.cursors[i]? = some c ∧ w.sequences[k]? = some s ∧
    a.perform c s = .ok r

/-! ## Places -/

/-- What stands at a place of a longer list. -/
theorem getElem?_concat_cases {β : Type} {l : List β} {a b : β} {i : Nat} (h : (l ++ [a])[i]? = some b) :
    l[i]? = some b ∨ (i = l.length ∧ b = a) := by
  rcases Nat.lt_trichotomy i l.length with hlt | rfl | hgt
  · rw [List.getElem?_append_left hlt] at h
    exact .inl h
  · rw [List.getElem?_concat_length] at h
    exact .inr ⟨rfl, (Option.some.inj h).symm⟩
  · have hlength : (l ++ [a]).length ≤ i := by
      rw [List.length_append, List.length_singleton]
      exact hgt
    rw [List.getElem?_eq_none hlength] at h
    cases h

/-- What stands at a place of a list after one place was changed. -/
theorem getElem?_set_cases {β : Type} {l : List β} {a b : β} {i j : Nat} (h : (l.set i a)[j]? = some b) :
    (j = i ∧ b = a) ∨ (j ≠ i ∧ l[j]? = some b) := by
  by_cases hij : j = i
  · subst hij
    have hlt : j < l.length := by
      rw [← List.length_set]
      exact (List.getElem?_eq_some_iff.1 h).1
    rw [List.getElem?_set_self hlt] at h
    exact .inl ⟨rfl, (Option.some.inj h).symm⟩
  · rw [List.getElem?_set_ne (Ne.symm hij)] at h
    exact .inr ⟨hij, h⟩

/-! ## What an event changes -/

/-- What can happen to a workspace at an event. -/
inductive Changes [Token α] (w : Workspace α) : Event α σ → Workspace α → Prop
  | nothing (e : Event α σ) : Changes w e w
  | created (source : Source α) (s : Sequence α) : Changes w (.create source) (w.addSequence s)
  | labelled {e : Event α σ} {k : Nat} {s : Sequence α} (delimiter : Text) (positions : Positions)
      (hs : w.sequences[k]? = some s) : Changes w e (w.setSequence k { s with delimiter, positions })
  | opened {k index : Nat} {s : Sequence α} {c : Cursor} (hs : w.sequences[k]? = some s)
      (hc : Cursor.start s index = .ok c) : Changes w (.openCursor k index) (w.addCursor c)
  | copied {i : Nat} {c : Cursor} (hc : w.cursors[i]? = some c) : Changes w (.copyCursor i) (w.addCursor c)
  | acted {i k : Nat} {a : Action α σ} {x : Cursor.Answer α} {c c' : Cursor} {s s' : Sequence α}
      (hc : w.cursors[i]? = some c) (hs : w.sequences[k]? = some s) (h : a.perform c s = .ok (x, c', s')) :
      Changes w (.act i k a) ((w.setCursor i c').setSequence k s')

/-- A cursor is created if its index is legal. -/
theorem apply_openCursor [Token α] {w : Workspace α} {k index : Nat} {s : Sequence α} {c : Cursor}
    (hs : w.sequences[k]? = some s) (hc : Cursor.start s index = .ok c) :
    w.apply (.openCursor k index : Event α σ) = w.addCursor c := by
  rw [apply, next?, hs]
  simp only [Option.bind_eq_bind, Option.bind_some, hc]
  rfl

/-- A cursor that is there is copied. -/
theorem apply_copyCursor [Token α] {w : Workspace α} {i : Nat} {c : Cursor} (hc : w.cursors[i]? = some c) :
    w.apply (.copyCursor i : Event α σ) = w.addCursor c := by
  rw [apply, next?, hc]
  rfl

/-- An action that succeeds puts the cursor and the sequence back in their places. -/
theorem apply_act [Token α] {w : Workspace α} {i k : Nat} {a : Action α σ} {x : Cursor.Answer α} {c c' : Cursor}
    {s s' : Sequence α} (hc : w.cursors[i]? = some c) (hs : w.sequences[k]? = some s)
    (h : a.perform c s = .ok (x, c', s')) :
    w.apply (.act i k a) = (w.setCursor i c').setSequence k s' := by
  rw [apply, next?, hc, hs]
  simp only [Option.bind_eq_bind, Option.bind_some, h]
  rfl

/-- An action that fails changes nothing. -/
theorem apply_act_of_error [Token α] {w : Workspace α} {i k : Nat} {a : Action α σ} {c : Cursor}
    {s : Sequence α} {e : CursorError} (hc : w.cursors[i]? = some c) (hs : w.sequences[k]? = some s)
    (h : a.perform c s = .error e) : w.apply (.act i k a) = w := by
  rw [apply, next?, hc, hs]
  simp only [Option.bind_eq_bind, Option.bind_some, h]
  rfl

/-- An event that comes to nothing changes nothing. -/
theorem apply_of_none [Token α] {w : Workspace α} {e : Event α σ} (h : w.next? e = none) : w.apply e = w := by
  unfold apply
  rw [h]
  rfl

/-- Every event is one of the changes. -/
theorem changes_apply [Token α] (w : Workspace α) (e : Event α σ) : Changes w e (w.apply e) := by
  cases hnext : w.next? e with
  | none =>
    rw [apply_of_none hnext]
    exact .nothing e
  | some w' =>
    have happly : w.apply e = w' := by
      unfold apply
      rw [hnext]
      rfl
    rw [happly]
    -- An event that can be done finds what it refers to; what it finds is read off `next?`.
    cases e with
    | create source =>
      obtain ⟨s, -, rfl⟩ := Option.map_eq_some_iff.1 hnext
      exact .created source s
    | setDelimiter k delimiter =>
      obtain ⟨s, hs, rfl⟩ := Option.map_eq_some_iff.1 hnext
      exact .labelled delimiter s.positions hs
    | addPosition k position =>
      obtain ⟨s, hs, rfl⟩ := Option.map_eq_some_iff.1 hnext
      exact .labelled s.delimiter (s.positions.insert position) hs
    | openCursor k index =>
      obtain ⟨s, hs, hrest⟩ := Option.bind_eq_some_iff.1 hnext
      obtain ⟨c, hc, hrest⟩ := Option.bind_eq_some_iff.1 hrest
      cases hrest
      exact .opened hs (toOption_eq_some.1 hc)
    | copyCursor i =>
      obtain ⟨c, hc, rfl⟩ := Option.map_eq_some_iff.1 hnext
      exact .copied hc
    | act i k a =>
      obtain ⟨c, hc, hrest⟩ := Option.bind_eq_some_iff.1 hnext
      obtain ⟨s, hs, hrest⟩ := Option.bind_eq_some_iff.1 hrest
      obtain ⟨⟨x, c', s'⟩, hperform, hrest⟩ := Option.bind_eq_some_iff.1 hrest
      cases hrest
      exact .acted hc hs (toOption_eq_some.1 hperform)

end TextAnalysis.Workspace
