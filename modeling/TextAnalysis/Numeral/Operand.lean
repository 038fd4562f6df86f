/-
# Operands

An operand waits for a neighbouring number: it says by which operation the two combine, and between which
bounds the neighbour must lie.
-/
import TextAnalysis.Error
import TextAnalysis.Integer64

namespace TextAnalysis

/-- An operation with the bounds of the neighbour's value. -/
structure Operand where
  operation : Operation
  low : Int
  high : Int
  deriving DecidableEq, Repr

namespace Operand

/-- Whether a value lies between the bounds. -/
def accepts (o : Operand) (value : Int) : Bool :=
  o.low ≤ value && value ≤ o.high

/-- Combines the value `first` of the owner with the value `second` of the neighbour. -/
def apply (o : Operand) (first second : Int) : Except Error Int :=
  let result := o.operation.eval first second
  if !o.accepts second then
    .error (.malformed (Text.ofInt second)
      (.operandRejects first o.operation second o.low o.high))
  else if !Integer64.holds result then
    .error (.malformed (Text.ofInt second) (.overflow first o.operation second))
  else .ok result

end Operand

end TextAnalysis
