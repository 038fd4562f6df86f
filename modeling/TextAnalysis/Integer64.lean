/-
# 64-bit integers

Values are integers that fit into a signed 64-bit word. Arithmetic is exact; a result that does not fit
is an error of the operation that made it.
-/

namespace TextAnalysis.Integer64

/-- The least value. -/
def least : Int :=
  -9223372036854775808

/-- The greatest value. -/
def greatest : Int :=
  9223372036854775807

/-- The greatest number without a sign. -/
def greatestUnsigned : Nat :=
  18446744073709551615

/-- Whether an integer is a value. -/
def holds (n : Int) : Bool :=
  least ≤ n && n ≤ greatest

end TextAnalysis.Integer64
