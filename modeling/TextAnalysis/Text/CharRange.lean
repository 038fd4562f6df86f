/-
# Ranges of characters

A range of code points with a stride, and a range whose members move by one offset when their case
changes. Tables of both are lists, searched from the front, and some have names.
-/

namespace TextAnalysis

/-- Every `stride`-th code point from `first` to `last`. -/
structure CharRange where
  first : Nat
  last : Nat
  stride : Nat
  deriving DecidableEq, Repr

namespace CharRange

/-- Whether a code point is one of the range. -/
def contains (r : CharRange) (n : Nat) : Bool :=
  r.first ≤ n && n ≤ r.last && (n - r.first) % r.stride == 0

/-- Whether a character is in one of the ranges of a table. -/
def anyContains (table : List CharRange) (c : Char) : Bool :=
  table.any (·.contains c.toNat)

end CharRange

/-- A table of characters under the names by which it is called. -/
structure NamedRanges where
  names : List String
  ranges : List CharRange
  deriving DecidableEq, Repr

/-- The members of `range` change their case by adding `offset` to the code point. -/
structure CaseShift where
  range : CharRange
  offset : Int
  deriving DecidableEq, Repr

namespace CaseShift

/-- A character moved by the first entry of a table that has it, and unchanged if none has. -/
def move (table : List CaseShift) (c : Char) : Char :=
  match table.find? (·.range.contains c.toNat) with
  | some s => Char.ofNat ((c.toNat : Int) + s.offset).toNat
  | none => c

/-- The characters that the entries of a table move to `c`. -/
def sources (table : List CaseShift) (c : Char) : List Char :=
  table.filterMap fun s =>
    let n := ((c.toNat : Int) - s.offset).toNat
    if s.range.contains n then some (Char.ofNat n) else none

end CaseShift

end TextAnalysis
