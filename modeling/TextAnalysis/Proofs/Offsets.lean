/-
# Offsets and positions

An offset between two characters of a text belongs to one position, and offsets are in the order of their positions.
So a text can be cut at such offsets as at positions, and spans in order are pairs of positions in order.
-/
import TextAnalysis.PatternEngine

namespace TextAnalysis

namespace Text

variable {text : Text} {i k : Nat}

theorem byteOffset_cons_succ (c : Char) (rest : Text) (k : Nat) :
    byteOffset (c :: rest) (k + 1) = c.utf8Size + byteOffset rest k :=
  rfl

/-- An offset between two characters is that of a position. -/
theorem exists_byteOffset_of_isBoundary {n : Nat} (h : text.isBoundary n = true) :
    ∃ k ≤ text.length, text.byteOffset k = n := by
  induction text generalizing n with
  | nil => exact ⟨0, Nat.le_refl _, (eq_of_beq h).symm⟩
  | cons c rest ih =>
    rw [isBoundary, Bool.or_eq_true, Bool.and_eq_true, beq_iff_eq, decide_eq_true_eq] at h
    rcases h with rfl | ⟨hle, hrest⟩
    · exact ⟨0, Nat.zero_le _, rfl⟩
    · obtain ⟨k, hk, heq⟩ := ih hrest
      exact ⟨k + 1, Nat.succ_le_succ hk, by rw [byteOffset_cons_succ, heq]; omega⟩

/-- Every character takes a byte at least. -/
theorem byteOffset_lt (h : i < k) (hk : k ≤ text.length) : text.byteOffset i < text.byteOffset k := by
  induction text generalizing i k with
  | nil => exact absurd (Nat.lt_of_lt_of_le h hk) (Nat.not_lt_zero _)
  | cons c rest ih =>
    obtain ⟨k, rfl⟩ : ∃ l, k = l + 1 := ⟨k - 1, by omega⟩
    have hsize := c.utf8Size_pos
    cases i with
    | zero =>
      rw [byteOffset_cons_succ]
      exact Nat.lt_of_lt_of_le hsize (Nat.le_add_right _ _)
    | succ i =>
      have hrest := ih (Nat.lt_of_succ_lt_succ h) (Nat.le_of_succ_le_succ hk)
      rw [byteOffset_cons_succ, byteOffset_cons_succ]
      omega

theorem le_of_byteOffset_le (hi : i ≤ text.length) (h : text.byteOffset i ≤ text.byteOffset k) : i ≤ k :=
  Nat.le_of_not_lt fun hlt => absurd (byteOffset_lt hlt hi) (Nat.not_lt_of_le h)

theorem byteOffset_length (text : Text) : text.byteOffset text.length = text.byteLength := by
  rw [byteOffset, List.take_length]

/-- The offset of a position from one before it on. -/
theorem byteOffset_drop (text : Text) (h : i ≤ k) :
    byteOffset (text.drop i) (k - i) = text.byteOffset k - text.byteOffset i := by
  induction text generalizing i k with
  | nil => simp [byteOffset, byteLength]
  | cons c rest ih =>
    cases i with
    | zero => rfl
    | succ i =>
      obtain ⟨k, rfl⟩ : ∃ l, k = l + 1 := ⟨k - 1, by omega⟩
      rw [List.drop_succ_cons, byteOffset_cons_succ, byteOffset_cons_succ, Nat.add_sub_add_right,
        ih (Nat.le_of_succ_le_succ h), Nat.add_sub_add_left]

/-! ## Cutting at offsets -/

/-- What starts at the offset of a position starts at the position. -/
theorem fromByte_byteOffset (text : Text) (k : Nat) : text.fromByte (text.byteOffset k) = text.drop k := by
  induction text generalizing k with
  | nil => simp [fromByte]
  | cons c rest ih =>
    cases k with
    | zero => rfl
    | succ k =>
      have hsize := c.utf8Size_pos
      rw [byteOffset_cons_succ, fromByte, if_neg (by omega), Nat.add_sub_cancel_left, ih, List.drop_succ_cons]

/-- What ends at the offset of a position ends at the position. -/
theorem untilByte_byteOffset (text : Text) (k : Nat) : text.untilByte (text.byteOffset k) = text.take k := by
  induction text generalizing k with
  | nil => simp [untilByte]
  | cons c rest ih =>
    cases k with
    | zero =>
      have hsize := c.utf8Size_pos
      rw [untilByte, if_neg (by show ¬ c.utf8Size ≤ 0; omega), List.take_zero]
    | succ k =>
      rw [byteOffset_cons_succ, untilByte, if_pos (Nat.le_add_right _ _), Nat.add_sub_cancel_left, ih,
        List.take_succ_cons]

theorem bytesBetween_byteOffset (text : Text) (h : i ≤ k) :
    text.bytesBetween (text.byteOffset i) (text.byteOffset k) = (text.drop i).take (k - i) := by
  rw [bytesBetween, fromByte_byteOffset, ← byteOffset_drop text h, untilByte_byteOffset]

/-- Behind the last boundary there is nothing to cut off. -/
theorem bytesBetween_byteLength (text : Text) (h : i ≤ text.length) :
    text.bytesBetween (text.byteOffset i) text.byteLength = text.drop i := by
  rw [← byteOffset_length, bytesBetween_byteOffset text h, ← List.length_drop, List.take_length]

end Text

/-! ## Spans -/

namespace ByteSpan

/-- The positions between which a span stands. -/
def positions (text : Text) (s : ByteSpan) : Nat × Nat :=
  ((text.untilByte s.start).length, (text.untilByte s.finish).length)

theorem positions_ofPositions {text : Text} {m : Nat × Nat} (hle : m.1 ≤ m.2) (h : m.2 ≤ text.length) :
    positions text (ofPositions text m) = m := by
  simp only [positions, ofPositions, Text.untilByte_byteOffset]
  rw [List.length_take_of_le (Nat.le_trans hle h), List.length_take_of_le h]

/-- Pairs of positions in order are found again between the spans that they make. -/
theorem map_positions_ofPositions {text : Text} {start : Nat} {ms : List (Nat × Nat)}
    (h : Spaced text.length start ms) : (ms.map (ofPositions text)).map (positions text) = ms := by
  induction ms generalizing start with
  | nil => rfl
  | cons m later ih =>
    obtain ⟨-, hle, hlast, hlater⟩ := h
    rw [List.map_cons, List.map_cons, positions_ofPositions hle hlast, ih hlater]

/-- Spans in order are pairs of positions in order. -/
theorem exists_positions_of_ordered {text : Text} {start : Nat} {spans : List ByteSpan} (hstart : start ≤ text.length)
    (h : Ordered text (text.byteOffset start) spans) :
    Spaced text.length start (spans.map (positions text)) ∧
      (spans.map (positions text)).map (ofPositions text) = spans := by
  induction spans generalizing start with
  | nil => exact ⟨trivial, rfl⟩
  | cons s later ih =>
    obtain ⟨hle, hspan, hfirst, hlast, hlater⟩ := h
    obtain ⟨i, hi, hfirst⟩ := Text.exists_byteOffset_of_isBoundary hfirst
    obtain ⟨k, hk, hlast⟩ := Text.exists_byteOffset_of_isBoundary hlast
    obtain rfl : s = ofPositions text (i, k) := by rw [ofPositions, hfirst, hlast]
    have hik : i ≤ k := Text.le_of_byteOffset_le hi hspan
    obtain ⟨hspaced, heq⟩ := ih hk hlater
    rw [List.map_cons, List.map_cons, positions_ofPositions hik hk, heq]
    exact ⟨⟨Text.le_of_byteOffset_le hstart hle, hik, hk, hspaced⟩, rfl⟩

end ByteSpan

end TextAnalysis
