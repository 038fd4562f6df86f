/-
# Ranges of lengths
-/
import TextAnalysis.Error
import TextAnalysis.Integer64

namespace TextAnalysis

/-- Lengths of at least one from a least to a greatest. -/
structure LengthRange where
  least : Nat
  greatest : Nat
  least_pos : 0 < least
  least_le : least ≤ greatest

namespace LengthRange

instance : DecidableEq LengthRange
  | ⟨a, b, _, _⟩, ⟨c, d, _, _⟩ =>
    if h : a = c ∧ b = d then isTrue (by cases h.1; cases h.2; rfl)
    else isFalse fun e => h (by cases e; exact ⟨rfl, rfl⟩)

/-- The range between two lengths. -/
def make (least greatest : Nat) : Except Error LengthRange :=
  if h : 0 < least then
    if hle : least ≤ greatest then .ok ⟨least, greatest, h, hle⟩
    else .error (.argument (.maximumBelowMinimum least))
  else .error (.argument .zeroMinimumLength)

/-- All lengths that a 64-bit word counts. -/
def unbounded : LengthRange :=
  ⟨1, Integer64.greatestUnsigned, by decide, by decide⟩

/-- The lengths of the range that are smaller than a given one, in ascending order. -/
def below (r : LengthRange) (length : Nat) : List Nat :=
  List.range' r.least (min r.greatest (length - 1) + 1 - r.least)

end LengthRange

end TextAnalysis
