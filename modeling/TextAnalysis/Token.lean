/-
# Tokens

A token is a piece of text with the positions at which it occurs. This module has the operations that
all tokens share and the plain tokens: fragments and n-grams.
-/
import TextAnalysis.Positions
import TextAnalysis.Error

namespace TextAnalysis

/-- What all tokens have: a text, the positions of its occurrences, and a length. -/
class Token (α : Type) where
  text : α → Text
  positions : α → Positions
  addPosition : α → Nat → α
  length : α → Nat := fun t => (text t).length
  isEmpty : α → Bool := fun t => length t == 0

/-! ## Fragments -/

/-- A piece of a text, not empty. -/
structure Fragment where
  text : Text
  positions : Positions
  nonempty : text ≠ []
  deriving DecidableEq

namespace Fragment

/-- A fragment at given positions. -/
def make (text : Text) (positions : Positions) : Except Error Fragment :=
  if h : text = [] then .error (.argument .emptyToken) else .ok ⟨text, positions, h⟩

/-- A fragment at one position. -/
def makeAt (text : Text) (position : Nat) : Except Error Fragment :=
  make text (.single position)

/-- Adds an occurrence. -/
def addPosition (t : Fragment) (position : Nat) : Fragment :=
  { t with positions := t.positions.insert position }

instance : Token Fragment where
  text := Fragment.text
  positions := Fragment.positions
  addPosition := addPosition

end Fragment

/-! ## N-grams -/

/-- A fragment with the degree under which it was taken. -/
structure Gram where
  degree : Nat
  fragment : Fragment
  degree_pos : 0 < degree
  deriving DecidableEq

namespace Gram

/-- An n-gram at one position. -/
def makeAt (degree : Nat) (text : Text) (position : Nat) : Except Error Gram :=
  if h : 0 < degree then
    (Fragment.makeAt text position).map fun fragment => ⟨degree, fragment, h⟩
  else .error (.argument .zeroDegree)

/-- Adds an occurrence. -/
def addPosition (t : Gram) (position : Nat) : Gram :=
  { t with fragment := t.fragment.addPosition position }

instance : Token Gram where
  text t := t.fragment.text
  positions t := t.fragment.positions
  addPosition := addPosition

end Gram

end TextAnalysis
