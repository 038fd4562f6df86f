/-
# Combined patterns

Patterns in sequence, in choice and in repetition, in a normal form: a sequence holds no sequences and no
empty patterns, a choice holds no choices, a choice between characters is a set, and what all alternatives
of a choice begin with stands once in front of it. A group is never taken apart.

The last rule decides which match is preferred: the common beginning is settled before the alternatives
are tried.
-/
import TextAnalysis.Pattern
import TextAnalysis.Pattern.CharSet.Ranges

namespace TextAnalysis.Pattern

/-! ## Sequences -/

/-- The patterns of a sequence, in order. -/
def factors : Pattern → List Pattern
  | empty => []
  | sequence p q => p.factors ++ q.factors
  | p => [p]

/-- Patterns one after the other. -/
def ofFactors : List Pattern → Pattern
  | [] => empty
  | [p] => p
  | p :: ps => sequence p (ofFactors ps)

/-- Patterns one after the other, those in a sequence taken singly. -/
def inSequence (ps : List Pattern) : Pattern :=
  ofFactors (ps.flatMap factors)

/-! ## Repetitions -/

/-- A pattern from `least` to `most` times. One that takes no characters is repeated at most once. -/
def times (p : Pattern) (least : Nat) (most : Option Nat) (greedy : Bool) : Pattern :=
  let bounds :=
    if p.takesNothing then (min least 1, some ((most.map (min · 1)).getD 1)) else (least, most)
  if bounds = (0, some 0) then empty
  else if bounds = (1, some 1) then p
  else repeated p bounds.1 bounds.2 greedy

/-! ## Choices -/

/-- The alternatives of a choice, in order. -/
def branches : Pattern → List Pattern
  | either p q => p.branches ++ q.branches
  | p => [p]

/-- A choice between patterns, in order. -/
def ofBranches : List Pattern → Pattern
  | [] => one .none
  | [p] => p
  | p :: ps => either p (ofBranches ps)

/-- The set of a pattern that takes one character. -/
def set? : Pattern → Option CharSet
  | one s => some s
  | _ => none

/-- The character of a pattern that takes one fixed character. -/
def char? (p : Pattern) : Option Char :=
  p.set?.bind CharSet.single?

/-- The set of a choice between single characters, or between sets none of which has a single one. -/
def setOfChoice? (ps : List Pattern) : Option CharSet := do
  let sets ← ps.mapM set?
  let single := sets.map (·.single?.isSome)
  if single.all id || !single.any id then some (.unionAll sets) else none

/-- Whether two patterns are written alike. No two groups are. -/
def sameAs : Pattern → Pattern → Bool
  | empty, empty => true
  | one s, one t => s.sameAs t
  | holds a, holds b => a == b
  | sequence p q, sequence p' q' => p.sameAs p' && q.sameAs q'
  | either p q, either p' q' => p.sameAs p' && q.sameAs q'
  | repeated p least most greedy, repeated p' least' most' greedy' =>
    least == least' && most == most' && greedy == greedy' && p.sameAs p'
  | _, _ => false

/-- The parts of a sequence: fixed characters in a row make one part, any other pattern another. -/
def parts (p : Pattern) : List (List Pattern) :=
  p.factors.splitBy fun a b => a.char?.isSome && b.char?.isSome

/-- Whether two parts of sequences are written alike. -/
def samePart (p q : List Pattern) : Bool :=
  p.length == q.length && (p.zip q).all fun (a, b) => a.sameAs b

/-- The number of parts that two sequences have in common at their beginnings. -/
def commonParts : List (List Pattern) → List (List Pattern) → Nat
  | p :: ps, q :: qs => if samePart p q then commonParts ps qs + 1 else 0
  | _, _ => 0

/-- What several sequences begin with, and what is left of each. Each has to have at least two parts. -/
def splitCommon? (ps : List Pattern) : Option (List Pattern × List Pattern) :=
  let split := ps.map parts
  match split with
  | [] => none
  | first :: others =>
    let count := others.foldl (fun n other => min n (commonParts first other)) first.length
    if count = 0 ∨ split.any (·.length < 2) then none
    else some ((first.take count).flatten, split.map fun q => ofFactors (q.drop count).flatten)

/-- The number of patterns that a pattern consists of. -/
def nodeCount : Pattern → Nat
  | empty | one _ | holds _ => 1
  | group p | repeated p _ _ _ => p.nodeCount + 1
  | sequence p q | either p q => p.nodeCount + q.nodeCount + 1

/-- A choice between patterns, of which common beginnings are taken at most `steps` times. -/
def choiceWithin : Nat → List Pattern → Pattern
  | 0, ps => ofBranches ps
  | steps + 1, ps =>
    match ps.flatMap branches with
    | [p] => p
    | ps =>
      match setOfChoice? ps with
      | some s => one s
      | none =>
        match splitCommon? ps with
        | some (common, rests) => inSequence (common ++ [choiceWithin steps rests])
        | none => ofBranches ps

/-- A choice between patterns, in order. -/
def choice : List Pattern → Pattern
  | [p] => p
  | ps => choiceWithin ((ps.map nodeCount).foldr (· + ·) 1) ps

end TextAnalysis.Pattern
