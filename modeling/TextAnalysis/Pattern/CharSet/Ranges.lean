/-
# Sets as ranges

A set of characters written out as ranges of code points, ascending and with gaps between them. Two sets
are equal exactly if they are written out alike, and a set of one character is a single range of one code
point. Surrogates are no characters: a range may pass over them, and none starts or ends there.
-/
import TextAnalysis.Pattern.CharSet

namespace TextAnalysis

namespace CharRange

/-- The code points of a range. -/
def members (r : CharRange) : List Nat :=
  if r.last < r.first then []
  else (List.range ((r.last - r.first) / r.stride + 1)).map (r.first + r.stride * ·)

/-- The number of pieces without gaps that a range consists of. -/
def pieceCount (r : CharRange) : Nat :=
  if r.stride = 1 then 1 else (r.last - r.first) / r.stride + 1

/-- The pieces without gaps, as first and last code point. -/
def pieces (r : CharRange) : List (Nat × Nat) :=
  if r.stride = 1 ∧ r.first ≤ r.last then [(r.first, r.last)] else r.members.map fun n => (n, n)

end CharRange

namespace CaseShift

/-- The code points of a table, moved and not moved. -/
def members (table : List CaseShift) : List Nat :=
  table.flatMap fun s => s.range.members.flatMap fun n => [n, ((n : Int) + s.offset).toNat]

end CaseShift

namespace CharSet

/-! ## Operations on written out sets -/

/-- Joins ascending ranges that overlap or touch; the range in front has been read already. -/
def joinFrom (first last : Nat) : List (Nat × Nat) → List (Nat × Nat)
  | [] => [(first, last)]
  | (a, b) :: rest =>
    if a ≤ last + 1 then joinFrom first (max last b) rest
    else (first, last) :: joinFrom a b rest

/-- Ranges in any order, written out as a set. -/
def joined (ranges : List (Nat × Nat)) : List (Nat × Nat) :=
  match ranges.mergeSort fun r s => r.1 ≤ s.1 with
  | [] => []
  | (a, b) :: rest => joinFrom a b rest

/-- The next code point of a character. -/
def codeAfter (n : Nat) : Nat :=
  if n = 0xD7FF then 0xE000 else n + 1

/-- The code point of a character before another one. -/
def codeBefore (n : Nat) : Nat :=
  if n = 0xE000 then 0xD7FF else n - 1

/-- The characters from `start` on that are in none of the ascending ranges. -/
def gapsFrom (start : Nat) : List (Nat × Nat) → List (Nat × Nat)
  | [] => if start ≤ 0x10FFFF then [(start, 0x10FFFF)] else []
  | (a, b) :: rest =>
    if start < a then (start, codeBefore a) :: gapsFrom (codeAfter b) rest
    else gapsFrom (codeAfter b) rest

/-- The characters in none of the ascending ranges. -/
def gaps (ranges : List (Nat × Nat)) : List (Nat × Nat) :=
  gapsFrom 0 ranges

/-- The characters that two written out sets share. -/
def shared (r s : List (Nat × Nat)) : List (Nat × Nat) :=
  gaps (joined (gaps r ++ gaps s))

/-! ## Writing out -/

/-- The ranges of several tables together. -/
def tableRanges (rs : List CharRange) : List (Nat × Nat) :=
  joined (rs.flatMap (·.pieces))

/-- The members of several categories. The unassigned characters are those in no table. -/
def categoryRanges (ks : List Category) : List (Nat × Nat) :=
  let unlisted :=
    if ks.contains .unassigned then gaps (tableRanges (Category.assigned.flatMap (·.ranges))) else []
  joined (tableRanges (ks.flatMap (·.ranges)) ++ unlisted)

/-- The characters that have variants in case. -/
def casedCharacters : List Char :=
  (CaseShift.members CaseShift.toFolded).map Char.ofNat

/-- A set written out as ascending ranges of code points with gaps between them. -/
def ranges : CharSet → List (Nat × Nat)
  | none => []
  | all => [(0, 0x10FFFF)]
  | range first last => if first ≤ last then [(first.toNat, last.toNat)] else []
  | table rs => tableRanges rs
  | categories ks => categoryRanges ks
  | complement s => gaps s.ranges
  | union s t => joined (s.ranges ++ t.ranges)
  | inter s t => shared s.ranges t.ranges
  | caseClosed s =>
    let variants := (casedCharacters.filter s.contains).flatMap Text.caseVariants
    joined (s.ranges ++ variants.map fun c => (c.toNat, c.toNat))

/-- No fewer than the ranges that a set takes when it is written out, found without doing so. -/
def rangeBound : CharSet → Nat
  | none => 0
  | all | range _ _ => 1
  | table rs => (rs.map (·.pieceCount)).foldr (· + ·) 0
  | categories ks =>
    let tables := if ks.contains .unassigned then Category.assigned else ks
    (tables.flatMap (·.ranges)).foldr (·.pieceCount + ·) 1
  | complement s => s.rangeBound + 1
  | union s t => s.rangeBound + t.rangeBound
  | inter s t => s.rangeBound + t.rangeBound
  | caseClosed s => s.rangeBound + 4000

/-! ## Comparison -/

/-- The character of a set of exactly one. -/
def single? (s : CharSet) : Option Char :=
  match s with
  | range first last => if first = last then some first else Option.none
  | s =>
    match s.ranges with
    | [(a, b)] => if a = b then some (Char.ofNat a) else Option.none
    | _ => Option.none

/-- Whether two sets have the same characters. -/
def sameAs (s t : CharSet) : Bool :=
  s == t || s.ranges == t.ranges

end CharSet

end TextAnalysis
