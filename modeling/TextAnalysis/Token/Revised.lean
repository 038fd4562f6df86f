/-
# Tokens with revisions

A revised token is a current token together with the versions that it replaced, each under the number
of the revision that replaced it.
-/
import TextAnalysis.Token

namespace TextAnalysis

/-- A token and its earlier versions. -/
structure Revised (α : Type) where
  current : α
  earlier : Numbered α
  deriving DecidableEq

namespace Revised

variable {α : Type}

/-- A token without earlier versions. -/
def make (t : α) : Revised α :=
  ⟨t, .empty⟩

/-- Replaces the current token. The replaced one is kept under `revision`; what was kept under the same
number is lost. -/
def revise (r : Revised α) (revision : Nat) (t : α) : Revised α :=
  ⟨t, r.earlier.put revision r.current⟩

/-- The token that a revision replaced. -/
def before? (r : Revised α) (revision : Nat) : Option α :=
  r.earlier.get? revision

/-- The numbers of the revisions, in ascending order. -/
def revisions (r : Revised α) : List Nat :=
  r.earlier.numbers

/-- Adds an occurrence to the current token. -/
def addPosition [Token α] (r : Revised α) (position : Nat) : Revised α :=
  { r with current := Token.addPosition r.current position }

instance [Token α] : Token (Revised α) where
  text r := Token.text r.current
  positions r := Token.positions r.current
  addPosition := addPosition
  length r := Token.length r.current

end Revised

end TextAnalysis
