/-
# Pieces between delimiters

The matches of a compiled pattern stand in order and do not overlap. So the pieces between them have different
positions, and the fragments of a text, sorted, are these pieces from left to right. With the matches between them,
empty pieces included, they are the text.
-/
import TextAnalysis.Tokenizer.Delimiters
import TextAnalysis.Proofs.Gathering
import TextAnalysis.Proofs.Offsets

namespace TextAnalysis

/-! ## Parts between matches -/

/-- The parts of a text between matches in order, the first from its start and the last to its end, each with the number
of characters in front of it. -/
def gaps (text : Text) (ms : List ByteSpan) : List Piece :=
  ((0 :: ms.map (·.finish)).zip (ms.map (·.start) ++ [text.byteLength])).map fun (start, finish) =>
    ⟨text.bytesBetween start finish, (text.untilByte start).length⟩

/-- The parts of a text that are matched. -/
def matched (text : Text) (ms : List ByteSpan) : List Text :=
  ms.map fun m => text.bytesBetween m.start m.finish

/-- Texts with others between them, in turn. -/
def weave : List Text → List Text → Text
  | text :: texts, other :: others => text ++ other ++ weave texts others
  | texts, _ => texts.flatten

namespace Delimiters

/-! ### By positions -/

/-- The pieces of a text around matches that are given by positions, from a position on. -/
def piecesAround (text : Text) : Nat → List (Nat × Nat) → List Piece
  | start, [] => [Piece.ofSlice text start (text.length - start)]
  | start, (i, k) :: later => Piece.ofSlice text start (i - start) :: piecesAround text k later

/-- Counting characters along gives the positions of the matches. -/
theorem piecesFrom_eq {text : Text} {start : Nat} {ms : List (Nat × Nat)} (hstart : start ≤ text.length)
    (h : Spaced text.length start ms) :
    piecesFrom text (text.byteOffset start) start (ms.map (ByteSpan.ofPositions text)) =
      piecesAround text start ms := by
  induction ms generalizing start with
  | nil =>
    rw [List.map_nil, piecesFrom, Text.fromByte_byteOffset, piecesAround, Piece.ofSlice, ← List.length_drop,
      List.take_length]
  | cons m later ih =>
    obtain ⟨i, k⟩ := m
    obtain ⟨hi, hik, hk, hlater⟩ := h
    have hposition : start + ((text.drop start).take (i - start)).length + ((text.drop i).take (k - i)).length = k := by
      simp only [List.length_take, List.length_drop]
      omega
    rw [List.map_cons, piecesFrom, piecesAround, ← ih hk hlater]
    simp only [ByteSpan.ofPositions]
    rw [Text.bytesBetween_byteOffset text hi, Text.bytesBetween_byteOffset text hik, ← Nat.add_assoc, hposition]
    rfl

/-- The parts between matches are the pieces around them. -/
theorem gaps_map_ofPositions {text : Text} {ms : List (Nat × Nat)} (h : Spaced text.length 0 ms) :
    gaps text (ms.map (ByteSpan.ofPositions text)) = piecesAround text 0 ms := by
  -- The same from any position on, by induction on the matches.
  have hfrom : ∀ start ≤ text.length, ∀ ms, Spaced text.length start ms →
      ((text.byteOffset start :: (ms.map (ByteSpan.ofPositions text)).map (·.finish)).zip
        ((ms.map (ByteSpan.ofPositions text)).map (·.start) ++ [text.byteLength])).map
          (fun x => (⟨text.bytesBetween x.1 x.2, (text.untilByte x.1).length⟩ : Piece)) =
        piecesAround text start ms := by
    intro start hstart ms h
    have hposition : (text.untilByte (text.byteOffset start)).length = start := by
      rw [Text.untilByte_byteOffset, List.length_take_of_le hstart]
    induction ms generalizing start with
    | nil =>
      have hrest : (text.drop start).take (text.length - start) = text.drop start := by
        rw [← List.length_drop, List.take_length]
      simp [piecesAround, Piece.ofSlice, hposition, Text.bytesBetween_byteLength text hstart, hrest]
    | cons m later ih =>
      obtain ⟨i, k⟩ := m
      obtain ⟨hi, hik, hk, hlater⟩ := h
      have htail := ih k hk hlater (by rw [Text.untilByte_byteOffset, List.length_take_of_le hk])
      simp only [List.map_cons, ByteSpan.ofPositions, List.cons_append, List.zip_cons_cons, hposition,
        Text.bytesBetween_byteOffset text hi, piecesAround, Piece.ofSlice] at htail ⊢
      rw [htail]
  exact hfrom 0 (Nat.zero_le _) ms h

theorem matched_map_ofPositions {text : Text} {start : Nat} {ms : List (Nat × Nat)} (h : Spaced text.length start ms) :
    matched text (ms.map (ByteSpan.ofPositions text)) = ms.map fun m => (text.drop m.1).take (m.2 - m.1) := by
  induction ms generalizing start with
  | nil => rfl
  | cons m later ih =>
    obtain ⟨-, hle, -, hlater⟩ := h
    have htail := ih hlater
    simp only [matched, List.map_cons, ByteSpan.ofPositions] at htail ⊢
    rw [htail, Text.bytesBetween_byteOffset text hle]

/-- The parts between matches in order, with the matches between them, are the rest of the text. -/
theorem weave_piecesAround {text : Text} {start : Nat} {ms : List (Nat × Nat)} (h : Spaced text.length start ms) :
    weave ((piecesAround text start ms).map (·.text)) (ms.map fun m => (text.drop m.1).take (m.2 - m.1)) =
      text.drop start := by
  induction ms generalizing start with
  | nil =>
    show ((text.drop start).take (text.length - start) ++ [] : Text) = _
    rw [List.append_nil, ← List.length_drop, List.take_length]
  | cons match_ later ih =>
    obtain ⟨i, k⟩ := match_
    obtain ⟨hi, hk, -, hlater⟩ := h
    show (text.drop start).take (i - start) ++ (text.drop i).take (k - i) ++ weave _ (later.map _) = _
    rw [ih hlater]
    have hdrop : text.drop i = (text.drop start).drop (i - start) := by
      rw [List.drop_drop, Nat.add_sub_cancel' hi]
    have hdrop' : text.drop k = (text.drop i).drop (k - i) := by
      rw [List.drop_drop, Nat.add_sub_cancel' hk]
    rw [hdrop', List.append_assoc, List.take_append_drop, hdrop, List.take_append_drop]

/-- Pieces around matches are what the text has at their positions. -/
theorem slice_of_mem_piecesAround {text : Text} {start : Nat} {ms : List (Nat × Nat)} {p : Piece}
    (h : p ∈ piecesAround text start ms) : (text.drop p.position).take p.text.length = p.text := by
  induction ms generalizing start with
  | nil =>
    rw [List.mem_singleton.1 h]
    exact Piece.slice_ofSlice text start _
  | cons m later ih =>
    rcases List.mem_cons.1 h with rfl | h
    · exact Piece.slice_ofSlice text start _
    · exact ih h

/-- The pieces around matches in order start one after the other, those without a text left out. -/
theorem ascending_piecesAround {text : Text} {start : Nat} {ms : List (Nat × Nat)} {finish : Nat}
    (h : Spaced finish start ms) :
    ((piecesAround text start ms).filter (! ·.text.isEmpty)).Pairwise
        (fun p q => p.position < q.position) ∧
      ∀ p ∈ piecesAround text start ms, start ≤ p.position := by
  induction ms generalizing start with
  | nil =>
    refine ⟨?_, fun p hp => ?_⟩
    · exact (List.pairwise_singleton _ _).filter _
    · rw [List.mem_singleton.1 hp]
      exact Nat.le_refl _
  | cons match_ later ih =>
    obtain ⟨i, k⟩ := match_
    obtain ⟨hstart, hik, -, hlater⟩ := h
    obtain ⟨hpairwise, hfrom⟩ := ih hlater
    unfold piecesAround
    constructor
    · rw [List.filter_cons]
      split
      · rename_i htext
        refine List.pairwise_cons.2 ⟨fun q hq => ?_, hpairwise⟩
        have hq := hfrom q (List.mem_of_mem_filter hq)
        -- A piece with a text ends behind the place where it starts.
        have hlt : start < i := by
          by_contra hle
          have hempty : i - start = 0 := by omega
          simp [Piece.ofSlice, hempty] at htext
        show start < q.position
        omega
      · exact hpairwise
    · intro p hp
      rcases List.mem_cons.1 hp with rfl | hp
      · exact Nat.le_refl _
      · exact Nat.le_trans (Nat.le_trans hstart hik) (hfrom p hp)

/-! ### Around matches in order -/

/-- The matches of a pattern in a text, by positions. -/
def positionsIn (d : Delimiters) (text : Text) : List (Nat × Nat) :=
  (d.pattern.find text).map (ByteSpan.positions text)

/-- Matches in order are pairs of positions in order, and the pieces around them stand between these. -/
theorem piecesFrom_of_ordered {text : Text} {ms : List ByteSpan} (h : ByteSpan.Ordered text 0 ms) :
    Spaced text.length 0 (ms.map (ByteSpan.positions text)) ∧
      piecesFrom text 0 0 ms = piecesAround text 0 (ms.map (ByteSpan.positions text)) ∧
      gaps text ms = piecesFrom text 0 0 ms := by
  obtain ⟨hspaced, heq⟩ := @ByteSpan.exists_positions_of_ordered text 0 _ (Nat.zero_le _) h
  have hpieces := piecesFrom_eq (Nat.zero_le _) hspaced
  have hgaps := gaps_map_ofPositions hspaced
  rw [heq] at hpieces hgaps
  exact ⟨hspaced, hpieces, hgaps.trans hpieces.symm⟩

/-- What is between matches in order, with the matches between them, is the text. -/
theorem weave_gaps {text : Text} {ms : List ByteSpan} (h : ByteSpan.Ordered text 0 ms) :
    weave ((gaps text ms).map (·.text)) (matched text ms) = text := by
  obtain ⟨hspaced, heq⟩ := @ByteSpan.exists_positions_of_ordered text 0 _ (Nat.zero_le _) h
  have hweave := weave_piecesAround hspaced
  rwa [← gaps_map_ofPositions hspaced, ← matched_map_ofPositions hspaced, heq] at hweave

theorem pieces_eq (d : Delimiters) (text : Text) :
    d.pieces text = (piecesAround text 0 (d.positionsIn text)).filter (! ·.text.isEmpty) := by
  rw [pieces, (piecesFrom_of_ordered (d.pattern.ordered text)).2.1]
  rfl

theorem spaced_positionsIn (d : Delimiters) (text : Text) : Spaced text.length 0 (d.positionsIn text) :=
  (piecesFrom_of_ordered (d.pattern.ordered text)).1

/-- Pieces between delimiters are what the text has at their positions. -/
theorem slice_of_mem_pieces {d : Delimiters} {text : Text} {p : Piece} (h : p ∈ d.pieces text) :
    (text.drop p.position).take p.text.length = p.text := by
  rw [pieces_eq] at h
  exact slice_of_mem_piecesAround (List.mem_of_mem_filter h)

/-- The pieces of a text start one after the other. -/
theorem ascending_pieces (d : Delimiters) (text : Text) :
    (d.pieces text).Pairwise fun p q => p.position < q.position :=
  pieces_eq d text ▸ (ascending_piecesAround (d.spaced_positionsIn text)).1

/-- Pieces without a text are left out. -/
theorem text_ne_nil_of_mem_filter {pieces : List Piece} {p : Piece} (h : p ∈ pieces.filter (! ·.text.isEmpty)) :
    p.text ≠ [] := by
  have htext := List.of_mem_filter h
  rintro hnil
  simp [hnil] at htext

/-- The fragments of a text, sorted, have the texts of its pieces. -/
theorem exists_tokenize (d : Delimiters) (text : Text) :
    ∃ tokens, d.tokenize text = .ok tokens ∧
      (Sequence.sorted tokens).tokens.map (·.text) = (d.pieces text).map (·.text) := by
  obtain ⟨tokens, htokens, hstands⟩ := Fragment.exists_gather fun p hp => text_ne_nil_of_mem_filter hp
  exact ⟨tokens, htokens, Fragment.map_text_sorted hstands (d.ascending_pieces text)⟩

end Delimiters

end TextAnalysis
