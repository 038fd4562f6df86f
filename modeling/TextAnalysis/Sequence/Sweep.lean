/-
# Sweeps

Walks of one cursor over all tokens of a sequence: a visit changes the tokens in place, and a removal
drops the tokens that satisfy a predicate.
-/
import TextAnalysis.Sequence.Cursor

namespace TextAnalysis

/-- A misuse of a cursor is an error. -/
instance : MonadLift (Except CursorError) (Except Error) :=
  ⟨Except.mapError .cursor⟩

namespace Sequence

variable {α : Type}

/-! ## Visits -/

/-- Changes the tokens after a cursor, at most `steps` of them, by a function of the index and the
token. The first failure is the answer. -/
def visitFrom (f : Nat → α → Except Error α) :
    Nat → Cursor → Sequence α → Except Error (Sequence α)
  | 0, _, s => .ok s
  | steps + 1, c, s => do
    if ← c.hasNext s then
      let index := c.next
      let (t, c) ← c.forward s
      let changed ← f index t
      let s ← c.modifyCurrent s fun _ => changed
      visitFrom f steps c s
    else return s

/-- Changes every token in place, from the first to the last. -/
def visit (f : Nat → α → Except Error α) (s : Sequence α) : Except Error (Sequence α) := do
  visitFrom f s.size (← Cursor.start s 0) s

/-! ## Removals -/

variable {m : Type → Type} [Monad m]

/-- Removes the token after a cursor. -/
def removeNext (c : Cursor) (s : Sequence α) : Except CursorError (Cursor × Sequence α) := do
  let (_, c) ← c.forward s
  let (_, c, s) ← c.remove s
  return (c, s)

/-- Removes the tokens after a cursor that satisfy a predicate, at most `steps` of them. -/
def removeFrom (p : α → m Bool) :
    Nat → Cursor → Sequence α → m (Except CursorError (Sequence α))
  | 0, _, s => pure (.ok s)
  | steps + 1, c, s => do
    match ← c.findNextM s p none with
    | .error e => pure (.error e)
    | .ok (false, _) => pure (.ok s)
    | .ok (true, c) =>
      match removeNext c s with
      | .error e => pure (.error e)
      | .ok (c, s) => removeFrom p steps c s

/-- Removes every token that satisfies a predicate, which may have effects and sees each token once, in
order. -/
def removeM (p : α → m Bool) (s : Sequence α) : m (Except CursorError (Sequence α)) :=
  match Cursor.start s 0 with
  | .error e => pure (.error e)
  | .ok c => removeFrom p s.size c s

end Sequence

end TextAnalysis
