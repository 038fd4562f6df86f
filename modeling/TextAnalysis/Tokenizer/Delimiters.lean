/-
# Cutting at delimiters

A delimiter tokenizer cuts a text at every match of a pattern. What lies between two matches is a
fragment if it is not empty.
-/
import TextAnalysis.Error
import TextAnalysis.PatternEngine
import TextAnalysis.Tokenizer.Gathering

namespace TextAnalysis

/-- A pattern to cut at, with its written form. -/
structure Delimiters where
  source : Text
  pattern : CompiledPattern

namespace Delimiters

/-! ## Making -/

/-- Cuts at a pattern given in its written form, which may not be empty. -/
def make [PatternEngine] (source : Text) : Except Error Delimiters :=
  if source.isEmpty then .error (.argument .emptyDelimiterPattern)
  else
    match PatternEngine.compile source with
    | .ok pattern => .ok ⟨source, pattern⟩
    | .error reason => .error (.argument (.badDelimiterPattern reason))

/-- Cuts at runs of white space. -/
def whitespace [PatternEngine] : Except Error Delimiters :=
  make "\\s+".toList

/-- A delimiter in parentheses, so that it stays one part of a choice. -/
def grouped (delimiter : Text) : Text :=
  "(?:".toList ++ delimiter ++ ")".toList

/-- Cuts at any of several delimiters, each given in its written form. -/
def anyOf [PatternEngine] (delimiters : List Text) : Except Error Delimiters :=
  if delimiters.any (·.isEmpty) then .error (.argument .emptyDelimiter)
  else if delimiters.isEmpty then .error (.argument .noDelimiters)
  else make (['|'].intercalate (delimiters.map grouped))

/-! ## Cutting -/

/-- The pieces of a text around matches. The next piece starts at the offset `start` in bytes, behind the match
before it; its position is the number of characters in front of it, which is counted along. -/
def piecesFrom (text : Text) (start position : Nat) : List ByteSpan → List Piece
  | [] => [⟨text.fromByte start, position⟩]
  | m :: later =>
    let fragment := text.bytesBetween start m.start
    let delimiter := text.bytesBetween m.start m.finish
    ⟨fragment, position⟩ :: piecesFrom text m.finish (position + (fragment.length + delimiter.length)) later

/-- The pieces of a text between the delimiters. -/
def pieces (d : Delimiters) (text : Text) : List Piece :=
  (piecesFrom text 0 0 (d.pattern.find text)).filter (! ·.text.isEmpty)

/-- The fragments of a text between the delimiters. -/
def tokenize (d : Delimiters) (text : Text) : Except Error (List Fragment) :=
  Fragment.gather (d.pieces text)

end Delimiters

end TextAnalysis
