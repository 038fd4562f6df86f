/-
# Scores

The value of a metric, exactly: a count, a quotient of counts, or one minus such a quotient. A score
becomes a binary64 number at the end, by rounding the quotient and then the difference.
-/
import TextAnalysis.Binary64

namespace TextAnalysis

/-- The value of a metric. The denominators are not zero. -/
inductive Score where
  | count (n : Nat)
  | quotient (num den : Nat)
  | complement (num den : Nat)
  deriving DecidableEq, Repr

namespace Score

/-- The number that a score rounds to. -/
def toBinary64 : Score → Binary64
  | count n => .ofNat n
  | quotient num den => .ofRatio num den
  | complement num den => (Binary64.ofRatio num den).oneMinus

/-- A distance in proportion to a length; texts of length zero do not differ. -/
def proportion (distance length : Nat) : Score :=
  if length = 0 then quotient 0 1 else quotient distance length

/-- What a proportion lacks to one. -/
def oneMinusProportion (distance length : Nat) : Score :=
  if length = 0 then complement 0 1 else complement distance length

end Score

end TextAnalysis
