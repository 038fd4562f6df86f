/-
# Tokens with values

A valued token may carry what its text means: a value, and the neighbours that the value combines with.
-/
import TextAnalysis.Token

namespace TextAnalysis

/-- What a text means. -/
structure Meaning (α : Type) where
  value : α
  association : Option Association
  deriving DecidableEq

/-- A fragment with or without a meaning. -/
structure Valued (α : Type) where
  fragment : Fragment
  meaning : Option (Meaning α)
  deriving DecidableEq

namespace Valued

variable {α : Type}

/-- A token without a meaning. -/
def raw (text : Text) (positions : Positions) : Except Error (Valued α) :=
  (Fragment.make text positions).map fun fragment => ⟨fragment, none⟩

/-- A token with a meaning. -/
def make (text : Text) (value : α) (association : Option Association) (positions : Positions) :
    Except Error (Valued α) :=
  (Fragment.make text positions).map fun fragment => ⟨fragment, some ⟨value, association⟩⟩

/-- The text and positions of another token, without a meaning. -/
def ofToken {τ : Type} [Token τ] (t : τ) : Except Error (Valued α) :=
  raw (Token.text t) (Token.positions t)

/-- The text of a token. -/
def text (t : Valued α) : Text :=
  t.fragment.text

/-- The positions of a token. -/
def positions (t : Valued α) : Positions :=
  t.fragment.positions

/-- The value, if there is a meaning. -/
def value? (t : Valued α) : Option α :=
  t.meaning.map (·.value)

/-- The association, if there is a meaning with one. -/
def association? (t : Valued α) : Option Association :=
  t.meaning.bind (·.association)

/-- Whether there is a meaning. -/
def isResolved (t : Valued α) : Bool :=
  t.meaning.isSome

/-- The same token with a given meaning. -/
def resolve (t : Valued α) (value : α) (association : Option Association) : Valued α :=
  { t with meaning := some ⟨value, association⟩ }

/-- Adds an occurrence. -/
def addPosition (t : Valued α) (position : Nat) : Valued α :=
  { t with fragment := t.fragment.addPosition position }

instance : Token (Valued α) where
  text := text
  positions := positions
  addPosition := addPosition

end Valued

end TextAnalysis
