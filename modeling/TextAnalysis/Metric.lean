/-
# Metrics

The measures of how similar two texts are. Distances are reported as they are, in proportion to a
length, or as what that proportion lacks to one; of the last kind greater values are better.
-/
import TextAnalysis.Metric.Score
import TextAnalysis.Metric.Levenshtein
import TextAnalysis.Metric.Alignment
import TextAnalysis.Metric.Damerau
import TextAnalysis.Tokenizer.Grams

namespace TextAnalysis

/-- How a distance is reported. -/
inductive Scale where
  | distance
  | dissimilarity
  | similarity
  deriving DecidableEq, Repr

/-- A measure of similarity. -/
inductive Metric where
  | levenshtein (s : Scale)
  | alignment
  | damerau (s : Scale)
  | hamming (s : Scale)
  | dice (r : LengthRange)
  deriving DecidableEq

/-! ## Measures -/

/-- What every measure of similarity has: a value for two texts, unless it fails, the least and the greatest value, and
whether greater values mean more similar texts. -/
structure Measure where
  value : Text → Text → Except Error Binary64
  least : Binary64
  greatest : Binary64
  isGain : Bool

namespace Measure

/-- Whether a value is as good as a threshold. -/
def accepts (m : Measure) (threshold value : Binary64) : Bool :=
  if m.isGain then threshold.le value else value.le threshold

/-- Whether a value is better than another one. -/
def isBetter (m : Measure) (value than : Binary64) : Bool :=
  if m.isGain then than.lt value else value.lt than

/-- Fails unless a threshold lies between the least and the greatest value. -/
def checkThreshold (m : Measure) (threshold : Binary64) : Except Error Unit :=
  if threshold.isBetween m.least m.greatest then .ok ()
  else .error (.argument (.thresholdOutside threshold m.least m.greatest))

end Measure

/-- Reports a distance with the length that it is in proportion to. -/
def Scale.report (s : Scale) (distance length : Nat) : Score :=
  match s with
  | .distance => .count distance
  | dissimilarity => .proportion distance length
  | similarity => .oneMinusProportion distance length

namespace Metric

/-! ## Values -/

/-- The number of places at which two texts of the same length differ. -/
def mismatches (first second : Text) : Nat :=
  ((first.zip second).filter fun (a, b) => a != b).length

/-- The texts of the n-grams of a text, each once. -/
def gramTexts (r : LengthRange) (text : Text) : Except Error (List Text) :=
  (r.grams text).map (·.map Token.text)

/-- Twice the number of common n-grams in proportion to the numbers of n-grams of both texts. Texts
without n-grams are similar if they are equal. -/
def diceScore (r : LengthRange) (first second : Text) : Except Error Score := do
  let grams₁ ← gramTexts r first
  let grams₂ ← gramTexts r second
  let total := grams₁.length + grams₂.length
  if total = 0 then return .quotient (if first = second then 1 else 0) 1
  let shared := (grams₁.filter (grams₂.contains ·)).length
  return .quotient (2 * shared) total

/-- The value of a metric for two texts. -/
def evaluate (m : Metric) (first second : Text) : Except Error Score :=
  let length := max first.length second.length
  match m with
  | levenshtein s => .ok (s.report (Levenshtein.distance first second) length)
  | alignment => .ok (.count (Alignment.distance first second))
  | damerau s => .ok (s.report (Damerau.distance first second) length)
  | hamming s =>
    if first.length = second.length then .ok (s.report (mismatches first second) length)
    else .error (.argument (.unequalLengths first.length second.length))
  | dice r => diceScore r first second

/-- The value of a metric as a number. -/
def value (m : Metric) (first second : Text) : Except Error Binary64 :=
  (m.evaluate first second).map Score.toBinary64

/-! ## Range and direction -/

/-- The scale of a metric; what is no distance is a similarity. -/
def scale : Metric → Scale
  | levenshtein s => s
  | alignment => .distance
  | damerau s => s
  | hamming s => s
  | dice _ => .similarity

/-- The least value. -/
def least (_ : Metric) : Binary64 :=
  .zero

/-- The greatest value. -/
def greatest (m : Metric) : Binary64 :=
  if m.scale = .distance then .greatest else .one

/-- Whether greater values mean more similar texts. -/
def isGain (m : Metric) : Bool :=
  m.scale == .similarity

/-- A metric as a measure. -/
def measure (m : Metric) : Measure :=
  { value := m.value, least := m.least, greatest := m.greatest, isGain := m.isGain }

instance : Coe Metric Measure := ⟨measure⟩

/-- Whether a value is as good as a threshold. -/
def accepts (m : Metric) (threshold value : Binary64) : Bool :=
  m.measure.accepts threshold value

/-- Fails unless a threshold lies between the least and the greatest value. -/
def checkThreshold (m : Metric) (threshold : Binary64) : Except Error Unit :=
  m.measure.checkThreshold threshold

/-! ## Names -/

/-- The metrics that have a name. -/
def named : List (String × Metric) :=
  [("levenshtein", levenshtein .distance),
   ("levenshtein-dissimilarity", levenshtein .dissimilarity),
   ("levenshtein-similarity", levenshtein .similarity),
   ("osa", alignment),
   ("damerau-levenshtein", damerau .distance),
   ("damerau-levenshtein-dissimilarity", damerau .dissimilarity),
   ("damerau-levenshtein-similarity", damerau .similarity),
   ("hamming", hamming .distance),
   ("hamming-loss", hamming .dissimilarity),
   ("hamming-accuracy", hamming .similarity),
   ("dice", dice .unbounded)]

/-- The names of metrics, in order. -/
def names : List Text :=
  named.map (·.1.toList)

/-- The metric with a name, in any ASCII case. -/
def ofName? (name : Text) : Option Metric :=
  (named.find? (·.1.toList == Text.asciiLowercase name)).map (·.2)

end Metric

end TextAnalysis
