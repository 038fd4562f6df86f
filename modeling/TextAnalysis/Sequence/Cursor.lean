/-
# Cursors

A cursor is a position between two tokens of a sequence, together with the token that it visited last.
All edits of a sequence go through cursors. A cursor remembers how many edits the sequence had when it
last saw it, and fails as soon as another cursor has edited the sequence.

Every operation takes the cursor and the sequence, and answers with the new cursor and, if it edits,
the new sequence. An operation that fails changes nothing.
-/
import TextAnalysis.Sequence

namespace TextAnalysis

/-- A position in a sequence. `next` is the index of the token after it, and `last` the index of the
token visited last. -/
structure Cursor where
  owner : Nat
  edits : Nat
  next : Nat
  last : Option Nat
  deriving DecidableEq, Repr

namespace Cursor

variable {α : Type}

/-- A cursor before the token at an index, or after all tokens. -/
def start (s : Sequence α) (index : Nat) : Except CursorError Cursor :=
  if s.size < index then .error (.indexOutOfBounds index s.size)
  else .ok { owner := s.number, edits := s.edits, next := index, last := none }

/-! ## Checks -/

/-- Fails unless the cursor belongs to the sequence and has seen all of its edits. -/
def check (c : Cursor) (s : Sequence α) : Except CursorError Unit :=
  if s.number ≠ c.owner then .error .foreignSequence
  else if s.edits ≠ c.edits then .error (.concurrentModification c.edits s.edits)
  else .ok ()

/-- The index of the token visited last. -/
def visited (c : Cursor) : Except CursorError Nat :=
  match c.last with
  | some i => .ok i
  | none => .error .nothingVisited

/-! ## Moving -/

/-- Whether there is a token after the cursor. -/
def hasNext (c : Cursor) (s : Sequence α) : Except CursorError Bool := do
  c.check s
  return c.next < s.size

/-- Whether there is a token before the cursor. -/
def hasPrevious (c : Cursor) (s : Sequence α) : Except CursorError Bool := do
  c.check s
  return 0 < c.next

/-- The index of the token after the cursor. -/
def nextIndex (c : Cursor) (s : Sequence α) : Except CursorError (Option Nat) := do
  return if ← c.hasNext s then some c.next else none

/-- The index of the token before the cursor. -/
def previousIndex (c : Cursor) (s : Sequence α) : Except CursorError (Option Nat) := do
  return if ← c.hasPrevious s then some (c.next - 1) else none

/-- The token at an index that the cursor holds. -/
def tokenAt (s : Sequence α) (index : Nat) : Except CursorError α :=
  match s.tokens[index]? with
  | some t => .ok t
  | none => .error .noSuchElement

/-- Passes over the token after the cursor. -/
def forward (c : Cursor) (s : Sequence α) : Except CursorError (α × Cursor) := do
  if !(← c.hasNext s) then .error .noSuchElement
  let t ← tokenAt s c.next
  return (t, { c with next := c.next + 1, last := some c.next })

/-- Passes back over the token before the cursor. -/
def backward (c : Cursor) (s : Sequence α) : Except CursorError (α × Cursor) := do
  if !(← c.hasPrevious s) then .error .noSuchElement
  let t ← tokenAt s (c.next - 1)
  return (t, { c with next := c.next - 1, last := some (c.next - 1) })

/-- The token visited last. -/
def current (c : Cursor) (s : Sequence α) : Except CursorError α := do
  c.check s
  tokenAt s (← c.visited)

/-! ## Editing -/

/-- Changes the content of the token visited last. This is no edit of the structure: all cursors stay
valid. -/
def modifyCurrent (c : Cursor) (s : Sequence α) (f : α → α) :
    Except CursorError (Sequence α) := do
  c.check s
  let i ← c.visited
  let t ← tokenAt s i
  return { s with tokens := s.tokens.set i (f t) }

/-- The cursor and the sequence after an edit, which both have counted. -/
def afterEdit (c : Cursor) (s : Sequence α) (tokens : List α) : Cursor × Sequence α :=
  ({ c with edits := s.edits + 1 }, { s with tokens, edits := s.edits + 1 })

/-- Inserts a token before the one visited last, which moves one place towards the end. The index of
the token after the cursor stays the same. -/
def add (c : Cursor) (s : Sequence α) (t : α) : Except CursorError (Cursor × Sequence α) := do
  c.check s
  let i ← c.visited
  return { c with last := some (i + 1) }.afterEdit s (s.tokens.insertIdx i t)

/-- Removes the token visited last. -/
def remove (c : Cursor) (s : Sequence α) : Except CursorError (α × Cursor × Sequence α) := do
  c.check s
  let i ← c.visited
  let t ← tokenAt s i
  let next := if i < c.next then c.next - 1 else c.next
  return (t, { c with next, last := none }.afterEdit s (s.tokens.eraseIdx i))

/-- Replaces the token visited last. -/
def replace (c : Cursor) (s : Sequence α) (t : α) :
    Except CursorError (α × Cursor × Sequence α) := do
  c.check s
  let i ← c.visited
  let old ← tokenAt s i
  return (old, c.afterEdit s (s.tokens.set i t))

/-- Combines the token visited last with the one at the index `other`. The result stands at the smaller
of the two indices and counts as visited last; the other place goes away. The token visited last is
the first argument of `combine`. -/
def merge (c : Cursor) (s : Sequence α) (other : Nat) (combine : α → α → α) :
    Except CursorError (Cursor × Sequence α) := do
  c.check s
  let i ← c.visited
  if s.size ≤ other then .error (.indexOutOfBounds other s.size)
  if other = i then .error (.mergeWithItself i)
  let retained ← tokenAt s i
  let absorbed ← tokenAt s other
  let low := min i other
  let high := max i other
  let tokens := (s.tokens.set low (combine retained absorbed)).eraseIdx high
  let next := if other < c.next then c.next - 1 else c.next
  return { c with next, last := some low }.afterEdit s tokens

/-- Divides the token visited last in two. The first part takes its place and stays visited, the second
stands after it. -/
def split (c : Cursor) (s : Sequence α) (divide : α → α × α) :
    Except CursorError (Cursor × Sequence α) := do
  c.check s
  let i ← c.visited
  let t ← tokenAt s i
  let (kept, new) := divide t
  return c.afterEdit s ((s.tokens.set i kept).insertIdx (i + 1) new)

/-! ## Searching -/

variable {m : Type → Type} [Monad m]

/-- Passes forward over at most `steps` tokens to one that satisfies a predicate, and back over that
one. The predicate may have effects; it sees each token once, in order. -/
def seekForward (s : Sequence α) (p : α → m Bool) :
    Nat → Cursor → m (Except CursorError (Bool × Cursor))
  | 0, c => pure (.ok (false, c))
  | steps + 1, c =>
    match c.forward s with
    | .error .noSuchElement => pure (.ok (false, c))
    | .error e => pure (.error e)
    | .ok (t, c) => do
      if ← p t then return (c.backward s).map fun found => (true, found.2)
      else seekForward s p steps c

/-- Passes back over at most `steps` tokens to one that satisfies a predicate, and forward over that
one. -/
def seekBackward (s : Sequence α) (p : α → m Bool) :
    Nat → Cursor → m (Except CursorError (Bool × Cursor))
  | 0, c => pure (.ok (false, c))
  | steps + 1, c =>
    match c.backward s with
    | .error .noSuchElement => pure (.ok (false, c))
    | .error e => pure (.error e)
    | .ok (t, c) => do
      if ← p t then return (c.forward s).map fun found => (true, found.2)
      else seekBackward s p steps c

/-- Moves before the next token that satisfies a predicate, looking at `limit` tokens or at all. Without
such a token the cursor stays where the search ended. -/
def findNextM (c : Cursor) (s : Sequence α) (p : α → m Bool) (limit : Option Nat) :
    m (Except CursorError (Bool × Cursor)) :=
  seekForward s p (limit.getD (s.size + 1)) c

/-- Moves after the previous token that satisfies a predicate, looking at `limit` tokens or at all. -/
def findPreviousM (c : Cursor) (s : Sequence α) (p : α → m Bool) (limit : Option Nat) :
    m (Except CursorError (Bool × Cursor)) :=
  seekBackward s p (limit.getD (s.size + 1)) c

/-- `findNextM` for a predicate without effects. -/
def findNext (c : Cursor) (s : Sequence α) (p : α → Bool) (limit : Option Nat) :
    Except CursorError (Bool × Cursor) :=
  Id.run (c.findNextM s (fun t => pure (p t)) limit)

/-- `findPreviousM` for a predicate without effects. -/
def findPrevious (c : Cursor) (s : Sequence α) (p : α → Bool) (limit : Option Nat) :
    Except CursorError (Bool × Cursor) :=
  Id.run (c.findPreviousM s (fun t => pure (p t)) limit)

end Cursor

end TextAnalysis
