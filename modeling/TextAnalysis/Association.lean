/-
# Associations

Which neighbours a token may combine with.
-/

namespace TextAnalysis

/-- The neighbours that a token combines with: the one before, the one after, or both. -/
inductive Association where
  | left
  | right
  | bidirectional
  deriving DecidableEq, Repr

namespace Association

/-- Whether the token before is allowed. -/
def allowsLeft : Association → Bool
  | left => true
  | right => false
  | bidirectional => true

/-- Whether the token after is allowed. -/
def allowsRight : Association → Bool
  | left => false
  | right => true
  | bidirectional => true

end Association

end TextAnalysis
