/-
# Gathered fragments in order

Gathering makes one token of equal pieces and sorting puts a token at each of its positions. Together they give
the pieces back, in the order in which they stand in the text.
-/
import TextAnalysis.Tokenizer.Gathering
import TextAnalysis.Proofs.Outcomes
import TextAnalysis.Proofs.Sorting

namespace TextAnalysis

/-! ## Pieces -/

namespace Piece

/-- A piece is as long as it is cut, if the text is long enough. -/
theorem length_ofSlice {text : Text} {i n : Nat} (h : i + n ≤ text.length) : (ofSlice text i n).text.length = n := by
  show ((text.drop i).take n).length = n
  rw [List.length_take, List.length_drop]
  omega

theorem text_ofSlice_ne_nil {text : Text} {position length : Nat} (hposition : position < text.length)
    (hlength : 0 < length) : (ofSlice text position length).text ≠ [] := by
  refine List.ne_nil_of_length_pos ?_
  show 0 < ((text.drop position).take length).length
  rw [List.length_take, List.length_drop]
  omega

/-- A piece is what the text has at its position. -/
theorem slice_ofSlice (text : Text) (i n : Nat) :
    (text.drop (ofSlice text i n).position).take (ofSlice text i n).text.length = (ofSlice text i n).text :=
  (List.prefix_iff_eq_take.1 (List.take_prefix n (text.drop i))).symm

/-- Of pieces one behind the other, no two stand in one place. -/
theorem eq_of_position_eq {pieces : List Piece} (hpieces : pieces.Pairwise fun p q => p.position < q.position)
    {p q : Piece} (hp : p ∈ pieces) (hq : q ∈ pieces) (h : p.position = q.position) : p = q :=
  List.inj_on_of_nodup_map (List.pairwise_map.2 (hpieces.imp Nat.ne_of_lt)) hp hq h

end Piece

namespace Fragment

/-- Among some fragments there is one with the text of a piece and its position. -/
def Stands (tokens : List Fragment) (p : Piece) : Prop :=
  ∃ t ∈ tokens, t.text = p.text ∧ p.position ∈ t.positions

theorem stands_cons {t : Fragment} {tokens : List Fragment} {p : Piece} :
    Stands (t :: tokens) p ↔ (t.text = p.text ∧ p.position ∈ t.positions) ∨ Stands tokens p := by
  simp [Stands]

theorem stands_append {tokens others : List Fragment} {p : Piece} :
    Stands (tokens ++ others) p ↔ Stands tokens p ∨ Stands others p := by
  simp [Stands, or_and_right, exists_or]

/-! ## Gathering -/

/-- An occurrence that is added stands among the fragments afterwards, besides those that stood there before. -/
theorem stands_of_addOccurrence? {p q : Piece} {tokens tokens' : List Fragment}
    (h : addOccurrence? p tokens = some tokens') : Stands tokens' q ↔ q = p ∨ Stands tokens q := by
  induction tokens generalizing tokens' with
  | nil => cases h
  | cons t tokens ih =>
    unfold addOccurrence? at h
    split at h
    · rename_i htext
      -- The fragment with the text of the occurrence gets its position, and keeps its own.
      have hadded : (t.addPosition p.position).text = q.text ∧
          q.position ∈ (t.addPosition p.position).positions ↔
            q = p ∨ (t.text = q.text ∧ q.position ∈ t.positions) := by
        have htext' : t.text = p.text := htext
        unfold addPosition
        rw [Positions.mem_insert]
        constructor
        · rintro ⟨hq, hpos | hpos⟩
          · obtain ⟨text, position⟩ := q
            obtain ⟨text', position'⟩ := p
            exact .inl (by simp_all)
          · exact .inr ⟨hq, hpos⟩
        · rintro (rfl | ⟨hq, hpos⟩)
          · exact ⟨htext', .inl rfl⟩
          · exact ⟨hq, .inr hpos⟩
      cases h
      rw [stands_cons, stands_cons, ← or_assoc]
      exact or_congr_left hadded
    · obtain ⟨rest, hrest, rfl⟩ := Option.map_eq_some_iff.1 h
      rw [stands_cons, stands_cons, ih hrest, or_left_comm]

/-- A piece with a text can be added. -/
theorem exists_addPiece {p : Piece} (hp : p.text ≠ []) (tokens : List Fragment) :
    ∃ tokens', addPiece (fun p => makeAt p.text p.position) tokens p = .ok tokens' ∧
      ∀ q, Stands tokens' q ↔ q = p ∨ Stands tokens q := by
  unfold addPiece
  cases h : addOccurrence? p tokens with
  | some tokens' => exact ⟨tokens', rfl, fun q => stands_of_addOccurrence? h⟩
  | none =>
    have hmake : makeAt p.text p.position = .ok ⟨p.text, .single p.position, hp⟩ := dif_neg hp
    refine ⟨tokens ++ [⟨p.text, .single p.position, hp⟩], by simp only [hmake, Except.map], fun q => ?_⟩
    rw [stands_append, or_comm]
    refine or_congr_left ?_
    obtain ⟨text, position⟩ := q
    obtain ⟨text', position'⟩ := p
    simp [Stands, eq_comm]

/-- Pieces with texts can be gathered, and they are what stands among the fragments. -/
theorem exists_gather {pieces : List Piece} (h : ∀ p ∈ pieces, p.text ≠ []) :
    ∃ tokens, gather pieces = .ok tokens ∧ ∀ q, Stands tokens q ↔ q ∈ pieces := by
  -- By induction from any fragments, since later pieces are added to the earlier ones.
  have hfrom : ∀ start : List Fragment, ∃ tokens,
      pieces.foldlM (addPiece fun p => makeAt p.text p.position) start = .ok tokens ∧
        ∀ q, Stands tokens q ↔ q ∈ pieces ∨ Stands start q := by
    induction pieces with
    | nil => exact fun start => ⟨start, rfl, by simp⟩
    | cons p pieces ih =>
      intro start
      obtain ⟨next, hnext, hstands⟩ := exists_addPiece (h p (List.mem_cons_self ..)) start
      obtain ⟨tokens, htokens, hall⟩ := ih (fun q hq => h q (List.mem_cons_of_mem _ hq)) next
      refine ⟨tokens, by rw [List.foldlM_cons, hnext, ok_bind, htokens], fun q => ?_⟩
      rw [hall, hstands, List.mem_cons, or_left_comm, or_assoc]
  obtain ⟨tokens, htokens, hall⟩ := hfrom []
  refine ⟨tokens, htokens, fun q => ?_⟩
  rw [hall, or_iff_left]
  rintro ⟨t, ht, -⟩
  cases ht

/-- Whatever was gathered, the pieces are what stands there. -/
theorem stands_of_gather {pieces : List Piece} {tokens : List Fragment} (hne : ∀ p ∈ pieces, p.text ≠ [])
    (h : gather pieces = .ok tokens) (q : Piece) : Stands tokens q ↔ q ∈ pieces := by
  obtain ⟨tokens', htokens, hstands⟩ := exists_gather hne
  obtain rfl : tokens' = tokens := Except.ok.inj (htokens.symm.trans h)
  exact hstands q

/-! ## Sorting -/

/-- Pieces in the order of their positions are what sorted fragments have at their positions. -/
theorem map_sorted {tokens : List Fragment} {pieces : List Piece}
    (hstands : ∀ q, Stands tokens q ↔ q ∈ pieces)
    (hpieces : pieces.Pairwise fun p q => p.position < q.position) :
    (tokens.foldl Sequence.place .empty).entries.map (fun e => ⟨e.2.text, e.1⟩) = pieces := by
  have hirrefl : Std.Irrefl fun p q : Piece => p.position < q.position :=
    ⟨fun p => Nat.lt_irrefl p.position⟩
  refine List.Pairwise.eq_of_mem_iff ?_ hpieces fun q => ?_
  · have hascending := (tokens.foldl Sequence.place .empty).ascending
    rw [List.pairwise_map] at hascending ⊢
    exact hascending
  obtain ⟨text, position⟩ := q
  rw [List.mem_map, Prod.exists]
  constructor
  · rintro ⟨k, b, hb, heq⟩
    obtain ⟨rfl, rfl⟩ := Piece.mk.inj heq
    obtain ⟨hmem, hk⟩ := Sequence.mem_of_lastWith (Sequence.mem_entries_iff.1 hb)
    exact (hstands _).1 ⟨b, hmem, rfl, hk⟩
  · intro hq
    obtain ⟨t, ht, htext, hk⟩ := (hstands _).2 hq
    obtain ⟨b, hb⟩ := Sequence.exists_lastWith_iff.2 ⟨t, ht, hk⟩
    obtain ⟨hmem, hkb⟩ := Sequence.mem_of_lastWith hb
    -- Two fragments with one position have the same text, since no two pieces stand in one place.
    have hpiece := (hstands ⟨b.text, position⟩).1 ⟨b, hmem, rfl, hkb⟩
    exact ⟨position, b, Sequence.mem_entries_iff.2 hb, Piece.eq_of_position_eq hpieces hpiece hq rfl⟩

/-- Sorted fragments have the texts of the pieces in order. -/
theorem map_text_sorted {tokens : List Fragment} {pieces : List Piece}
    (hstands : ∀ q, Stands tokens q ↔ q ∈ pieces)
    (hpieces : pieces.Pairwise fun p q => p.position < q.position) :
    (Sequence.sorted tokens).tokens.map (·.text) = pieces.map (·.text) := by
  rw [← map_sorted hstands hpieces, List.map_map]
  show ((tokens.foldl Sequence.place .empty).entries.map (·.2)).map (·.text) = _
  rw [List.map_map]
  rfl

end Fragment

end TextAnalysis
