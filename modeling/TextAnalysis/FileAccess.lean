/-
# Files

What a program asks a file system, the order of paths, and what it asks a search for the paths that a pattern
stands for.
-/
import TextAnalysis.Error

namespace TextAnalysis

/-! ## Access -/

/-- What a path leads to. -/
inductive FileKind where
  | file
  | directory
  | other
  deriving DecidableEq, Repr

/-- Reading files and directories, by their paths. -/
structure FileAccess (m : Type → Type) where
  content : Text → m (Except ReadFailure Text)
  kind : Text → m (Option FileKind)
  names : Text → m (List Text)

namespace Path

/-- A step of a path with its rank: the root, the current directory, the one above it, or a name. -/
def step (name : Text) : Nat × Text :=
  if name = ['.'] then (1, []) else if name = ['.', '.'] then (2, []) else (3, name)

/-- The steps of a path. Empty names do not count, and the current directory only at the start. -/
def steps (path : Text) : List (Nat × Text) :=
  let names := (Text.splitAt '/' path).filter (! ·.isEmpty)
  if path.head? = some '/' then (0, []) :: (names.map step).filter (·.1 != 1)
  else (names.take 1).map step ++ ((names.drop 1).map step).filter (·.1 != 1)

/-- Whether the steps of a path come before those of another one. -/
def stepsPrecede : List (Nat × Text) → List (Nat × Text) → Bool
  | _, [] => false
  | [], _ :: _ => true
  | a :: as, b :: bs =>
    if a = b then stepsPrecede as bs
    else a.1 < b.1 || (a.1 == b.1 && a.2.precedes b.2)

/-- Whether a path does not come after another one. -/
def notAfter (a b : Text) : Bool :=
  !stepsPrecede (steps b) (steps a)

/-- Sorted paths without those that repeat the one before. -/
def dropRepeated : List Text → List Text
  | a :: b :: rest =>
    if steps a = steps b then dropRepeated (a :: rest) else a :: dropRepeated (b :: rest)
  | paths => paths
  termination_by paths => paths.length

/-- Paths in order, each once. -/
def sortedOnce (paths : List Text) : List Text :=
  dropRepeated (paths.mergeSort notAfter)

end Path

namespace FileAccess

variable {m : Type → Type} [Monad m] (fs : FileAccess m)

/-- Whether a path leads to a directory. -/
def isDirectory (path : Text) : m Bool := do
  return (← fs.kind path) == some .directory

/-- Whether a path leads to a file. -/
def isFile (path : Text) : m Bool := do
  return (← fs.kind path) == some .file

end FileAccess

/-! ## Searching -/

/-- Why a search ends without paths. -/
inductive PathSearchError where
  | badPattern (reason : Text)
  | unreadable (reason : Text)
  deriving DecidableEq, Repr

/-- A search for the paths that a pattern stands for. Everything that reads the files of patterns is stated for
any search. -/
class PathSearch where
  search {m : Type → Type} [Monad m] (fs : FileAccess m) (pattern : Text) : m (Except PathSearchError (List Text))

end TextAnalysis
