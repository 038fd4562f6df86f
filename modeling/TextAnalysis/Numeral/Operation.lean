/-
# Operations

The two operations by which a number combines with its neighbour.
-/
import TextAnalysis.Text

namespace TextAnalysis

/-- The arithmetic of an operand. -/
inductive Operation where
  | add
  | multiply
  deriving DecidableEq, Repr

namespace Operation

/-- The name of an operation. -/
def name : Operation → Text
  | add => "add".toList
  | multiply => "multiply".toList

/-- The value of an operation. -/
def eval : Operation → Int → Int → Int
  | add, x, y => x + y
  | multiply, x, y => x * y

end Operation

end TextAnalysis
