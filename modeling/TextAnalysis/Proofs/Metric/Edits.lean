/-
# Edits

Single edits of a text, and the numbers of them that turn one text into another. A distance that is the least of these
numbers is a metric.
-/
import Mathlib.Order.Bounds.Defs
import TextAnalysis.Text

namespace TextAnalysis

/-- One edit: a character is inserted, deleted or substituted, or two neighbours are swapped if `swaps` allows it. -/
inductive Edit (swaps : Bool) : Text → Text → Prop
  | insert (s t : Text) (c : Char) : Edit swaps (s ++ t) (s ++ c :: t)
  | delete (s t : Text) (c : Char) : Edit swaps (s ++ c :: t) (s ++ t)
  | substitute (s t : Text) (c d : Char) : Edit swaps (s ++ c :: t) (s ++ d :: t)
  | swap (s t : Text) (c d : Char) (h : swaps = true) : Edit swaps (s ++ c :: d :: t) (s ++ d :: c :: t)

/-- A number of edits, one after the other, that turn one text into another. What has been edited may be edited
again. -/
inductive Edits (swaps : Bool) : Nat → Text → Text → Prop
  | nil (a : Text) : Edits swaps 0 a a
  | cons {n : Nat} {a b c : Text} (first : Edit swaps a b) (later : Edits swaps n b c) : Edits swaps (n + 1) a c

variable {swaps : Bool}

/-! ## One edit -/

theorem Edit.symm {a b : Text} (h : Edit swaps a b) : Edit swaps b a := by
  cases h with
  | insert s t c => exact .delete s t c
  | delete s t c => exact .insert s t c
  | substitute s t c d => exact .substitute s t d c
  | swap s t c d h => exact .swap s t d c h

/-- An edit of a text is an edit of every text that has it in the middle. -/
theorem Edit.between {a b : Text} (h : Edit swaps a b) (before after : Text) :
    Edit swaps (before ++ a ++ after) (before ++ b ++ after) := by
  cases h with
  | insert s t c =>
    have h : Edit swaps (before ++ s ++ (t ++ after)) _ := .insert (before ++ s) (t ++ after) c
    simpa using h
  | delete s t c =>
    have h : Edit swaps _ (before ++ s ++ (t ++ after)) := .delete (before ++ s) (t ++ after) c
    simpa using h
  | substitute s t c d =>
    have h : Edit swaps (before ++ s ++ c :: (t ++ after)) _ := .substitute (before ++ s) (t ++ after) c d
    simpa using h
  | swap s t c d hswaps => simpa using Edit.swap (before ++ s) (t ++ after) c d hswaps

namespace Edits

/-! ## Edits in a row -/

theorem single {a b : Text} (h : Edit swaps a b) : Edits swaps 1 a b :=
  .cons h (.nil b)

theorem trans {m n : Nat} {a b c : Text} (h : Edits swaps m a b) (h' : Edits swaps n b c) :
    Edits swaps (m + n) a c := by
  induction h with
  | nil => rwa [Nat.zero_add]
  | cons first _ ih =>
    rw [Nat.add_right_comm]
    exact .cons first (ih h')

theorem symm {n : Nat} {a b : Text} (h : Edits swaps n a b) : Edits swaps n b a := by
  induction h with
  | nil a => exact .nil a
  | cons first _ ih => exact ih.trans (.single first.symm)

theorem eq_of_zero {a b : Text} (h : Edits swaps 0 a b) : a = b := by
  cases h
  rfl

theorem between {n : Nat} {a b : Text} (h : Edits swaps n a b) (before after : Text) :
    Edits swaps n (before ++ a ++ after) (before ++ b ++ after) := by
  induction h with
  | nil => exact .nil _
  | cons first _ ih => exact .cons (first.between before after) ih

/-- Two texts are edited one after the other. -/
theorem append {m n : Nat} {a b a' b' : Text} (h : Edits swaps m a b) (h' : Edits swaps n a' b') :
    Edits swaps (m + n) (a ++ a') (b ++ b') := by
  have hfirst := h.between [] a'
  have hsecond := h'.between b []
  rw [List.append_nil, List.append_nil] at hsecond
  exact hfirst.trans hsecond

/-- A text is inserted character by character. -/
theorem insertAll (w : Text) : Edits swaps w.length [] w := by
  induction w with
  | nil => exact .nil []
  | cons c w ih => exact ih.trans (.single (.insert [] w c))

theorem deleteAll (u : Text) : Edits swaps u.length u [] :=
  (insertAll u).symm

end Edits

/-! ## Least numbers of edits -/

/-- Of any two texts a distance says by how many edits at least the first turns into the second. -/
def CountsEdits (swaps : Bool) (distance : Text → Text → Nat) : Prop :=
  ∀ a b, IsLeast {n | Edits swaps n a b} (distance a b)

namespace CountsEdits

variable {distance : Text → Text → Nat}

theorem symm (h : CountsEdits swaps distance) (a b : Text) : distance a b = distance b a := by
  have hle : ∀ a b, distance a b ≤ distance b a := fun a b => (h a b).2 (h b a).1.symm
  exact Nat.le_antisymm (hle a b) (hle b a)

theorem eq_zero_iff (h : CountsEdits swaps distance) {a b : Text} : distance a b = 0 ↔ a = b := by
  constructor
  · intro hzero
    have hedits := (h a b).1
    rw [hzero] at hedits
    exact Edits.eq_of_zero hedits
  · rintro rfl
    exact Nat.le_zero.1 ((h a a).2 (Edits.nil a))

theorem triangle (h : CountsEdits swaps distance) (a b c : Text) : distance a c ≤ distance a b + distance b c :=
  (h a c).2 ((h a b).1.trans (h b c).1)

end CountsEdits

end TextAnalysis
