/-
# Matchers

A matcher decides whether a candidate text matches the key of a dictionary entry, and how well. Textual
matchers and patterns score every match one; a metric scores a match with its value.
-/
import TextAnalysis.Metric
import TextAnalysis.Text.LetterCase
import TextAnalysis.PatternEngine

namespace TextAnalysis

/-- A comparison of a candidate with a key. -/
inductive Comparison where
  | equals
  | startsWith
  | endsWith
  | contains
  deriving DecidableEq, Repr

/-- Whether a comparison holds of a candidate and a key. -/
def Comparison.holds (c : Comparison) (candidate key : Text) : Bool :=
  match c with
  | equals => candidate == key
  | startsWith => candidate.startsWith key
  | endsWith => candidate.endsWith key
  | contains => key.occurs candidate

/-- A test of candidates against keys. -/
inductive Matcher where
  | textual (c : Comparison) (ignoreCase : Bool)
  | pattern
  | metric (m : Metric) (threshold : Binary64)
  deriving DecidableEq

namespace Matcher

/-- A matcher for values of a metric that are as good as a threshold, which must lie in the range of the
metric. -/
def ofMetric (m : Metric) (threshold : Binary64) : Except Error Matcher := do
  m.checkThreshold threshold
  return metric m threshold

/-- The written form of the pattern that matches where all of a candidate matches a key. -/
def wholePattern (key : Text) : Text :=
  "^(?:".toList ++ key ++ ")$".toList

/-- The pattern of a key. -/
def keyPattern [PatternEngine] (key : Text) : Except Error CompiledPattern :=
  match PatternEngine.compile (wholePattern key) with
  | .ok p => .ok p
  | .error reason => .error (.argument (.badKeyPattern key reason))

/-- The score of a match without a metric. -/
def plainScore (matched : Bool) : Option Binary64 :=
  if matched then some .one else none

/-- The score of a candidate for a key, if they match. -/
def score [PatternEngine] (m : Matcher) (candidate key : Text) : Except Error (Option Binary64) :=
  match m with
  | textual c ignoreCase =>
    .ok (plainScore
      (if ignoreCase then c.holds candidate.lowercase key.lowercase else c.holds candidate key))
  | pattern => (keyPattern key).map fun p => plainScore (p.occurs candidate)
  | metric m threshold =>
    (m.value candidate key).map fun v => if m.accepts threshold v then some v else none

/-- Whether a candidate matches a key. -/
def isMatch [PatternEngine] (m : Matcher) (candidate key : Text) : Except Error Bool :=
  (m.score candidate key).map (·.isSome)

/-- Whether greater scores are better. -/
def isGain : Matcher → Bool
  | metric m _ => m.isGain
  | _ => true

end Matcher

/-! ## Compiled patterns -/

/-- The patterns of the keys that a pattern matcher has met. -/
structure PatternCache where
  compiled : List (Text × CompiledPattern) := []

namespace PatternCache

/-- The number of keys with a pattern. -/
def size (c : PatternCache) : Nat :=
  c.compiled.length

/-- The pattern of a key, and the cache that has it. A key without a pattern is not kept. -/
def get [PatternEngine] (c : PatternCache) (key : Text) : Except Error CompiledPattern × PatternCache :=
  match c.compiled.find? (·.1 == key) with
  | some (_, p) => (.ok p, c)
  | none =>
    match Matcher.keyPattern key with
    | .ok p => (.ok p, ⟨c.compiled ++ [(key, p)]⟩)
    | .error e => (.error e, c)

end PatternCache

/-- The score of a candidate for a key, by way of a cache of patterns. -/
def Matcher.scoreCached [PatternEngine] (m : Matcher) (cache : PatternCache) (candidate key : Text) :
    Except Error (Option Binary64) × PatternCache :=
  match m with
  | pattern =>
    let (p, cache) := cache.get key
    (p.map fun p => plainScore (p.occurs candidate), cache)
  | m => (m.score candidate key, cache)

end TextAnalysis
