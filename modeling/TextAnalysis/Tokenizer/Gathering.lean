/-
# Gathering fragments

Tokenizers find pieces of a text one by one. Equal pieces become one token with all their positions; the
tokens stand in the order in which their texts were first found.
-/
import TextAnalysis.Token

namespace TextAnalysis

/-- A piece of a text and where it starts. -/
structure Piece where
  text : Text
  position : Nat
  deriving DecidableEq, Repr

/-- Adds an occurrence to the token with a given text, if there is one. -/
def addOccurrence? {α : Type} [Token α] (p : Piece) : List α → Option (List α)
  | [] => none
  | t :: tokens =>
    if Token.text t = p.text then some (Token.addPosition t p.position :: tokens)
    else (addOccurrence? p tokens).map (t :: ·)

/-- Adds a piece to the tokens found so far. -/
def addPiece {α : Type} [Token α] (make : Piece → Except Error α) (tokens : List α) (p : Piece) :
    Except Error (List α) :=
  match addOccurrence? p tokens with
  | some tokens => .ok tokens
  | none => (make p).map fun t => tokens ++ [t]

/-- The tokens of a list of pieces. -/
def gather {α : Type} [Token α] (make : Piece → Except Error α) (pieces : List Piece) :
    Except Error (List α) :=
  pieces.foldlM (addPiece make) []

/-- The fragments of a list of pieces. -/
def Fragment.gather (pieces : List Piece) : Except Error (List Fragment) :=
  TextAnalysis.gather (fun p => Fragment.makeAt p.text p.position) pieces

/-- The n-grams of a list of pieces, each with its length as degree. -/
def Gram.gather (pieces : List Piece) : Except Error (List Gram) :=
  TextAnalysis.gather (fun p => Gram.makeAt p.text.length p.text p.position) pieces

/-- The piece of a text from a position on, at most `length` characters. -/
def Piece.ofSlice (text : Text) (position length : Nat) : Piece :=
  ⟨(text.drop position).take length, position⟩

end TextAnalysis
