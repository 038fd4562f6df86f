/-
# Numerals

The value of a word in a numeral: a number or a modifier of a number, with the operands through which it
combines with the words before and after it.
-/
import TextAnalysis.Association
import TextAnalysis.Numeral.Operand

namespace TextAnalysis

/-- A modifier changes a neighbouring number and is no number by itself. -/
inductive NumeralKind where
  | number
  | modifier
  deriving DecidableEq, Repr

/-- A value with the operands that are still pending. -/
structure Numeral where
  kind : NumeralKind := .number
  value : Int
  left : Option Operand := none
  right : Option Operand := none
  deriving DecidableEq, Repr

namespace Numeral

/-- A number without operands. -/
def number (value : Int) : Numeral :=
  { value }

/-- Whether a value is a modifier. -/
def isModifier (n : Numeral) : Bool :=
  n.kind == .modifier

/-- Whether a value is a number without pending operands. -/
def isResolved (n : Numeral) : Bool :=
  n.kind == .number && n.left.isNone && n.right.isNone

/-- The same value with other operands. -/
def withOperands (n : Numeral) (left right : Option Operand) : Numeral :=
  { n with left, right }

/-- The association that the pending operands imply. -/
def impliedAssociation (n : Numeral) : Option Association :=
  match n.left, n.right with
  | some _, some _ => some .bidirectional
  | some _, none => some .left
  | none, some _ => some .right
  | none, none => none

end Numeral

end TextAnalysis
