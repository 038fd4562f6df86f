/-
# Reduction

A sequence of translated words is reduced to one number. First the operands that the association of a
word forbids, or that face an end of the sequence, are masked. Then one adjacent pair after the other is
merged until no pair can be:

* a word with a pending right operand takes up its right neighbour if that one has no pending left
  operand, and the other way round;
* of two operands that face each other the one of a modifier beside a number wins, and otherwise the left
  operand of the right word;
* a modifier is never taken up.

Of all pairs the one whose owner has the least absolute value goes first, a left operand before a right
one, and then the leftmost. The merged number keeps the left operand of the left word and the right
operand of the right word.
-/
import TextAnalysis.Numeral
import TextAnalysis.Token.Valued
import TextAnalysis.Token.Revised
import TextAnalysis.Sequence.Sweep

namespace TextAnalysis

/-- A word of a numeral with its earlier versions. -/
abbrev Word := Revised (Valued Numeral)

/-- A phrase is a sequence of words. -/
abbrev Phrase := Sequence Word

namespace Phrase

/-- The revision under which the untranslated word is kept. -/
def resolving : Nat := 0

/-- The revision under which a word is kept before operands are masked. -/
def masking : Nat := 1

/-- The revision under which a word is kept before it takes up a neighbour. -/
def merging : Nat := 2

/-! ## Masking -/

/-- A word with the given operands; the word before them is kept if they differ. -/
def maskOperands (w : Word) (value : Numeral) (left right : Option Operand) : Word :=
  if left = value.left ∧ right = value.right then w
  else
    let masked := value.withOperands left right
    w.revise masking (w.current.resolve masked masked.impliedAssociation)

/-- Masks the operands of the word at an index of a phrase. A modifier must keep an operand, and that
must not face an end of the phrase. -/
def maskWord (size index : Nat) (w : Word) : Except Error Word :=
  match w.current.meaning with
  | none => .error (.malformed w.current.text .untranslatedWord)
  | some ⟨value, association⟩ =>
    let association := association.getD .bidirectional
    let left := if association.allowsLeft then value.left else none
    let right := if association.allowsRight then value.right else none
    let isFirst := index == 0
    let isLast := index + 1 == size
    if value.isModifier then
      if (left.isSome && isFirst) || (right.isSome && isLast) then
        .error (.malformed w.current.text .modifierWithoutNeighbour)
      else if left.isNone && right.isNone then
        .error (.malformed w.current.text .modifierWithoutOperand)
      else .ok (maskOperands w value left right)
    else
      .ok (maskOperands w value (if isFirst then none else left) (if isLast then none else right))

/-- Masks the operands of all words. -/
def mask (p : Phrase) : Except Error Phrase :=
  p.visit (maskWord p.size)

/-! ## Choosing a pair -/

/-- A pair of neighbours that can merge: the absolute value of the owner, the side of the owner on which
the operand stands, and the index of the left word. -/
structure Candidate where
  magnitude : Nat
  side : Side
  leftIndex : Nat
  deriving DecidableEq, Repr

namespace Candidate

/-- The index of the word whose operand is applied. -/
def owner (c : Candidate) : Nat :=
  match c.side with
  | .left => c.leftIndex + 1
  | .right => c.leftIndex

/-- The index of the word that is taken up. -/
def consumed (c : Candidate) : Nat :=
  match c.side with
  | .left => c.leftIndex
  | .right => c.leftIndex + 1

/-- Left operands come before right ones. -/
def sideRank (c : Candidate) : Nat :=
  match c.side with
  | .left => 0
  | .right => 1

/-- Whether a pair goes before another one. -/
def precedes (c d : Candidate) : Bool :=
  c.magnitude < d.magnitude ||
    (c.magnitude == d.magnitude &&
      (c.sideRank < d.sideRank || (c.sideRank == d.sideRank && c.leftIndex < d.leftIndex)))

/-- The earlier of two pairs, the first one if they are equal. -/
def earlier (best : Option Candidate) (c : Candidate) : Option Candidate :=
  match best with
  | none => some c
  | some b => some (if c.precedes b then c else b)

end Candidate

/-- On which side of its owner the operand stands by which two neighbours can merge. -/
def mergeSide (a b : Numeral) : Option Side :=
  match a.right, b.left with
  | some _, none => if b.isModifier then none else some .right
  | none, some _ => if a.isModifier then none else some .left
  | some _, some _ =>
    match a.isModifier, b.isModifier with
    | true, false => some .right
    | false, _ => some .left
    | true, true => none
  | none, none => none

/-- The value of a word of a phrase. -/
def valueOf (p : Phrase) (w : Word) : Except Error Numeral :=
  match w.current.value? with
  | some value => .ok value
  | none => .error (.malformed p.text .untranslatedWord)

/-- The candidate of two neighbours, of which the left one has a given index. -/
def candidateAt (p : Phrase) (pair : (Word × Word) × Nat) : Except Error (Option Candidate) := do
  let a ← p.valueOf pair.1.1
  let b ← p.valueOf pair.1.2
  return (mergeSide a b).map fun side =>
    { magnitude := (if side = .left then b else a).value.natAbs, side, leftIndex := pair.2 }

/-- The words of a phrase with their right neighbours and indices. -/
def neighbours (p : Phrase) : List ((Word × Word) × Nat) :=
  (p.tokens.zip p.tokens.tail).zipIdx

/-- The pair to merge next, if there is one. -/
def nextCandidate (p : Phrase) : Except Error (Option Candidate) := do
  let candidates ← p.neighbours.mapM p.candidateAt
  return (candidates.filterMap id).foldl Candidate.earlier none

/-! ## Merging -/

/-- The word at an index. -/
def wordAt (p : Phrase) (index : Nat) : Except Error Word :=
  match p.tokens[index]? with
  | some w => .ok w
  | none => .error (.malformed p.text .missingToken)

/-- The number that two neighbours make. -/
def combine (p : Phrase) (side : Side) (left right : Numeral) : Except Error Numeral := do
  let (owner, consumed, operand) :=
    match side with
    | .left => (right, left, right.left)
    | .right => (left, right, left.right)
  match operand with
  | none => .error (.malformed p.text .operandVanished)
  | some operand =>
    let value ← operand.apply owner.value consumed.value
    return { value, left := left.left, right := right.right }

/-- Merges a pair of neighbours. The owner's word is kept under the revision of the merging. -/
def merge (p : Phrase) (c : Candidate) : Except Error Phrase := do
  let left ← p.wordAt c.leftIndex
  let right ← p.wordAt (c.leftIndex + 1)
  let value ← p.combine c.side (← p.valueOf left) (← p.valueOf right)
  let merged ← Valued.make (left.current.text ++ ' ' :: right.current.text) value
    value.impliedAssociation (left.current.positions.union right.current.positions)
  let cursor ← Cursor.start p c.owner
  let (_, cursor) ← cursor.forward p
  let (_, p) ← cursor.merge p c.consumed fun retained _ => retained.revise merging merged
  return p

/-! ## Reducing -/

/-- Merges pairs until no pair is left, within a number of rounds. -/
def reduceWithin : Nat → Phrase → Except Error Phrase
  | 0, p => .error (.malformed p.text .noFixedPoint)
  | rounds + 1, p => do
    match ← p.nextCandidate with
    | none => return p
    | some c => reduceWithin rounds (← p.merge c)

/-- Reduces a phrase as far as possible. -/
def reduce (p : Phrase) : Except Error Phrase := do
  let p ← p.mask
  reduceWithin (3 * p.size + 1) p

/-- The number that a reduced phrase consists of. -/
def extract (p : Phrase) : Except Error Int :=
  let malformed (reason : Malformation) : Except Error Int := .error (.malformed p.text reason)
  match p.tokens with
  | [] => malformed .noNumeral
  | [w] =>
    match w.current.value? with
    | none => malformed .untranslatedWord
    | some value =>
      if value.isResolved then .ok value.value
      else if value.isModifier then malformed .modifierWithoutNumber
      else malformed .operandPending
  | _ => malformed (.numbersRemain p.size)

end Phrase

end TextAnalysis
