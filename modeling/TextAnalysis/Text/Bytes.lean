/-
# Offsets in bytes

Characters take one to four bytes in UTF-8. An offset in bytes stands at the start of a character, at the end
of the text, or inside a character; only between characters a text can be cut.
-/
import TextAnalysis.Text

namespace TextAnalysis.Text

/-- The number of bytes of a text. -/
def byteLength : Text → Nat
  | [] => 0
  | c :: rest => c.utf8Size + byteLength rest

/-- The offset in bytes of a position, which counts characters. -/
def byteOffset (text : Text) (position : Nat) : Nat :=
  byteLength (text.take position)

/-- Whether an offset stands at the start of a character or at the end of a text. -/
def isBoundary : Text → Nat → Bool
  | [], n => n == 0
  | c :: rest, n => n == 0 || (c.utf8Size ≤ n && isBoundary rest (n - c.utf8Size))

/-- The characters of a text that end at an offset or before it. -/
def untilByte : Nat → Text → Text
  | _, [] => []
  | n, c :: rest => if c.utf8Size ≤ n then c :: untilByte (n - c.utf8Size) rest else []

/-- The characters of a text that start at an offset or behind it. -/
def fromByte : Nat → Text → Text
  | _, [] => []
  | n, c :: rest => if n = 0 then c :: rest else fromByte (n - c.utf8Size) rest

/-- The characters of a text between two offsets. -/
def bytesBetween (text : Text) (start finish : Nat) : Text :=
  (text.fromByte start).untilByte (finish - start)

/-! ## Offsets of positions -/

theorem isBoundary_byteOffset (text : Text) (position : Nat) :
    text.isBoundary (text.byteOffset position) = true := by
  induction text generalizing position with
  | nil => cases position <;> rfl
  | cons c rest ih =>
    cases position with
    | zero => simp [byteOffset, byteLength, isBoundary]
    | succ position =>
      have hrest := ih position
      unfold byteOffset at hrest ⊢
      simp [List.take_succ_cons, byteLength, isBoundary, hrest]

theorem byteOffset_mono (text : Text) {i k : Nat} (h : i ≤ k) : text.byteOffset i ≤ text.byteOffset k := by
  induction text generalizing i k with
  | nil => simp [byteOffset, byteLength]
  | cons c rest ih =>
    cases i with
    | zero => simp [byteOffset, byteLength]
    | succ i =>
      obtain ⟨k, rfl⟩ : ∃ l, k = l + 1 := ⟨k - 1, by omega⟩
      have hrest : byteLength (rest.take i) ≤ byteLength (rest.take k) := ih (Nat.le_of_succ_le_succ h)
      simp only [byteOffset, List.take_succ_cons, byteLength]
      omega

end TextAnalysis.Text
