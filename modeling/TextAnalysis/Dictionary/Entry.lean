/-
# Dictionary entries
-/
import TextAnalysis.Text
import TextAnalysis.Association

namespace TextAnalysis

/-- A key with its value, and the neighbours that the value combines with. -/
structure Entry (α : Type) where
  key : Text
  value : α
  association : Option Association := none
  deriving DecidableEq

end TextAnalysis
