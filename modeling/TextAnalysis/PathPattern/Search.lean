/-
# Searching by path patterns

The search for the paths that a pattern stands for follows the names of the pattern from directory to
directory.
-/
import TextAnalysis.FileAccess
import TextAnalysis.PathPattern

namespace TextAnalysis

namespace Path

/-- The path of a name after a directory. -/
def append (directory name : Text) : Text :=
  if directory.getLast? = some '/' then directory ++ name else directory ++ '/' :: name

/-- The path of a name in a directory; names in the current directory stand alone. -/
def join (directory name : Text) : Text :=
  if steps directory = [step ['.']] then name else append directory name

end Path

namespace FileAccess

variable {m : Type → Type} [Monad m] (fs : FileAccess m)

/-- A path at which a search ends, unless only directories count. -/
def found (onlyDirectories : Bool) (path : Text) : m (List Text) := do
  return if !onlyDirectories || (← fs.isDirectory path) then [path] else []

/-- The directory itself and the one above it, as far as a pattern that starts with a dot stands for
them. -/
def dotNames (p : NamePattern) : List Text :=
  if p.head? = some (.char '.') then [['.'], ['.', '.']].filter p.isMatch else []

mutual

/-- Follows the names of a pattern below a path, at most a number of steps. -/
def searchBelow (onlyDirectories : Bool) : Nat → List NamePattern → Text → m (List Text)
  | 0, _, _ => pure []
  | _ + 1, [], path => fs.found onlyDirectories path
  | steps + 1, p :: later, path => do
    let isDirectory ← fs.isDirectory path
    match p.literal? with
    | some name =>
      let next := Path.join path name
      let kind ← fs.kind next
      let isPresent := if name = ['.'] ∨ name = ['.', '.'] then isDirectory else kind.isSome
      if isPresent then searchBelow onlyDirectories steps later next else return []
    | none =>
      if isDirectory then
        let names ← fs.names path
        let below ← names.mapM fun name =>
          searchAt onlyDirectories steps (p :: later) name (Path.join path name)
        let special ← (dotNames p).mapM fun name =>
          searchBelow onlyDirectories steps later (Path.append path name)
        return below.flatten ++ special.flatten
      else return []

/-- Follows the names of a pattern at a path with a given last name. -/
def searchAt (onlyDirectories : Bool) : Nat → List NamePattern → Text → Text → m (List Text)
  | 0, _, _, _ => pure []
  | steps + 1, pattern, name, path => do
    let isRecursive := (pattern.head?.map NamePattern.isRecursive).getD false
    let rest := pattern.dropWhile NamePattern.isRecursive
    let deeper ←
      if isRecursive && (← fs.isDirectory path) then
        searchBelow onlyDirectories steps ([.anyDirectories] :: rest) path
      else pure []
    match rest with
    | [] => return deeper ++ (if ← fs.isDirectory path then [path] else [])
    | p :: later =>
      if p.isMatch name then
        return deeper ++ (← searchBelow onlyDirectories steps later path)
      else return deeper

end

/-- The greatest number of names and directories that a search passes; paths are not longer. -/
def searchLimit : Nat := 4096

/-- The paths that a pattern stands for. -/
def search (p : PathPattern) : m (List Text) :=
  fs.searchBelow p.onlyDirectories searchLimit p.names (if p.isAbsolute then ['/'] else ['.'])

end FileAccess

/-- The search by the patterns of this library. -/
instance PathPattern.pathSearch : PathSearch where
  search fs pattern :=
    match PathPattern.read pattern with
    | .ok p => return .ok (← fs.search p)
    | .error e => return .error (.badPattern e.message)

end TextAnalysis
