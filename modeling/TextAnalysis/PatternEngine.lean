/-
# Pattern engines

What is asked of an engine for patterns: whether a text is the written form of a pattern, and if it is, where
the pattern matches in other texts and whether it does at all. Everything that cuts, matches or reads by
patterns is stated for any engine.
-/
import TextAnalysis.Text.Bytes

namespace TextAnalysis

/-- A part of a text, from an offset in bytes to another one. -/
structure ByteSpan where
  start : Nat
  finish : Nat
  deriving DecidableEq, Repr

/-- Pairs of positions stand in order up to a last position: each starts at the given one or behind it, or where the
pair before it ends or later. -/
def Spaced (finish : Nat) : Nat → List (Nat × Nat) → Prop
  | _, [] => True
  | start, (i, k) :: later => start ≤ i ∧ i ≤ k ∧ k ≤ finish ∧ Spaced finish k later

namespace ByteSpan

/-- The part of a text between two positions. -/
def ofPositions (text : Text) (m : Nat × Nat) : ByteSpan :=
  ⟨text.byteOffset m.1, text.byteOffset m.2⟩

/-- Spans of a text stand in order: each starts at an offset or behind it, and behind the one before it or where
that one ends, and each starts and ends between characters. -/
def Ordered (text : Text) : Nat → List ByteSpan → Prop
  | _, [] => True
  | start, s :: later =>
    start ≤ s.start ∧ s.start ≤ s.finish ∧ text.isBoundary s.start = true ∧ text.isBoundary s.finish = true ∧
      Ordered text s.finish later

/-- Positions in order are so in bytes. -/
theorem ordered_map_ofPositions {text : Text} {finish start : Nat} {ms : List (Nat × Nat)}
    (h : Spaced finish start ms) : Ordered text (text.byteOffset start) (ms.map (ofPositions text)) := by
  induction ms generalizing start with
  | nil => trivial
  | cons m later ih =>
    obtain ⟨hstart, hle, -, hlater⟩ := h
    exact ⟨text.byteOffset_mono hstart, text.byteOffset_mono hle, text.isBoundary_byteOffset _,
      text.isBoundary_byteOffset _, ih hlater⟩

end ByteSpan

/-- A pattern that an engine has accepted: its matches in a text, which stand in order, and whether there is
one. -/
structure CompiledPattern where
  find : Text → List ByteSpan
  occurs : Text → Bool
  ordered : ∀ text, ByteSpan.Ordered text 0 (find text)

/-- An engine accepts the written form of a pattern, or says why it refuses it. -/
class PatternEngine where
  compile : Text → Except Text CompiledPattern

end TextAnalysis
