/-
# Text parsers

A text parser cuts a text into tokens, puts them in the order of their positions and hands the sequence
to a chain of stages. A text may be changed before, and a result after. A malformed text is reported
as it was given.
-/
import TextAnalysis.Stage

namespace TextAnalysis

/-- A parser of texts to results. -/
structure TextParser (τ ρ : Type) where
  cut : Text → Except Error (List τ)
  chain : Stage (Sequence τ) ρ
  before : Option (Text → Text) := none
  after : Option (ρ → ρ) := none

namespace TextParser

variable {τ ρ : Type} [Token τ]

/-- The text that is cut into tokens. -/
def prepare (p : TextParser τ ρ) (text : Text) : Text :=
  (p.before.getD id) text

/-- The result before it is changed. -/
def evaluate (p : TextParser τ ρ) (text : Text) : Except Error ρ := do
  p.chain (Sequence.sorted (← p.cut text))

/-- Parses a text. -/
def parse (p : TextParser τ ρ) (text : Text) : Except Error ρ :=
  ((p.evaluate (p.prepare text)).mapError (.aboutText text)).map (p.after.getD id)

end TextParser

end TextAnalysis
