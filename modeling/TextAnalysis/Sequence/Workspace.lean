/-
# Workspaces

A workspace holds the sequences and cursors that are in use together. It numbers its sequences, so that
a cursor knows the one that it was created for.
-/
import TextAnalysis.Sequence.Cursor

namespace TextAnalysis

/-- Sequences and cursors in the order of their creation. -/
structure Workspace (α : Type) where
  sequences : List (Sequence α) := []
  cursors : List Cursor := []
  deriving DecidableEq

namespace Workspace

variable {α : Type}

/-- The number that the next sequence gets. -/
def nextNumber (w : Workspace α) : Nat :=
  w.sequences.length

/-- Adds a sequence under a number of its own. -/
def addSequence (w : Workspace α) (s : Sequence α) : Workspace α :=
  { w with sequences := w.sequences ++ [{ s with number := w.nextNumber }] }

/-- Adds a cursor. -/
def addCursor (w : Workspace α) (c : Cursor) : Workspace α :=
  { w with cursors := w.cursors ++ [c] }

/-- Puts a changed sequence back in its place. -/
def setSequence (w : Workspace α) (index : Nat) (s : Sequence α) : Workspace α :=
  { w with sequences := w.sequences.set index s }

/-- Puts a changed cursor back in its place. -/
def setCursor (w : Workspace α) (index : Nat) (c : Cursor) : Workspace α :=
  { w with cursors := w.cursors.set index c }

end Workspace

end TextAnalysis
