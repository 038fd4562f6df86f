/-
# Proper substrings

The substrings of a text with a length in a range, shorter than the text: there is one for every text that occurs, at
all places where it occurs. Shorter ones come first, and the first of a length is the beginning of the text.
-/
import TextAnalysis.Proofs.Tokenizers.Pieces
import TextAnalysis.Tokenizer.Substrings

namespace TextAnalysis

/-- A text that is not empty stands in another one behind so many characters. -/
def OccursAt (text key : Text) (i : Nat) : Prop :=
  key ≠ [] ∧ key <+: text.drop i
  deriving Decidable

theorem not_occursAt_nil (key : Text) (i : Nat) : ¬ OccursAt [] key i := by
  rintro ⟨hne, hprefix⟩
  rw [List.drop_nil] at hprefix
  exact hne (List.prefix_nil.1 hprefix)

theorem OccursAt.add_length_le {text key : Text} {i : Nat} (h : OccursAt text key i) :
    i + key.length ≤ text.length := by
  have hpos := List.length_pos_of_ne_nil h.1
  have hle := h.2.length_le
  rw [List.length_drop] at hle
  omega

theorem occursAt_drop_iff {text key : Text} {start i : Nat} :
    OccursAt (text.drop start) key i ↔ OccursAt text key (start + i) := by
  unfold OccursAt
  rw [List.drop_drop]

namespace LengthRange

variable {r : LengthRange} {text w : Text} {tokens : List Fragment} {t : Fragment} {n x : Nat}

theorem mem_below_iff {length : Nat} : n ∈ r.below length ↔ r.least ≤ n ∧ n ≤ r.greatest ∧ n < length := by
  have hleast := r.least_pos
  unfold below
  rw [List.mem_range'_1]
  omega

theorem bounds_of_mem_below {length : Nat} (h : n ∈ r.below length) : 0 < n ∧ n < length :=
  have hbounds := mem_below_iff.1 h
  ⟨Nat.lt_of_lt_of_le r.least_pos hbounds.1, hbounds.2.2⟩

/-- The pieces of a length that is less than that of the text are what occurs with this length. -/
theorem mem_piecesOfLength_iff (hn : n ∈ r.below text.length) :
    (⟨w, x⟩ : Piece) ∈ piecesOfLength text n ↔ w.length = n ∧ OccursAt text w x := by
  obtain ⟨hpos, hlt⟩ := bounds_of_mem_below hn
  unfold piecesOfLength
  rw [List.mem_map]
  constructor
  · rintro ⟨i, hi, hpiece⟩
    obtain ⟨rfl, rfl⟩ := Piece.mk.inj hpiece
    have hi := List.mem_range.1 hi
    have hlength : ((text.drop i).take n).length = n := Piece.length_ofSlice (by omega)
    exact ⟨hlength, List.ne_nil_of_length_pos (by omega), List.take_prefix ..⟩
  · rintro ⟨rfl, h⟩
    have hle := h.add_length_le
    refine ⟨x, List.mem_range.2 (by omega), ?_⟩
    rw [Piece.ofSlice, ← List.prefix_iff_eq_take.1 h.2]

/-- There are the proper substrings of a text, and among them stands every text with a length in the range where it
occurs. -/
theorem exists_substrings (r : LengthRange) (text : Text) :
    ∃ tokens, r.substrings text = .ok tokens ∧ ∀ w x, Fragment.Stands tokens ⟨w, x⟩ ↔
      w.length ∈ r.below text.length ∧ OccursAt text w x := by
  have hmem : ∀ p, p ∈ (r.below text.length).flatMap (piecesOfLength text) ↔
      p.text.length ∈ r.below text.length ∧ OccursAt text p.text p.position := by
    intro p
    rw [List.mem_flatMap]
    constructor
    · rintro ⟨n, hn, hp⟩
      obtain ⟨rfl, h⟩ := (mem_piecesOfLength_iff hn).1 hp
      exact ⟨hn, h⟩
    · rintro ⟨hn, h⟩
      exact ⟨_, hn, (mem_piecesOfLength_iff hn).2 ⟨rfl, h⟩⟩
  obtain ⟨tokens, htokens, hstands⟩ := Fragment.exists_gather fun p hp => ((hmem p).1 hp).2.1
  exact ⟨tokens, htokens, fun w x => (hstands _).trans (hmem ⟨w, x⟩)⟩

theorem stands_substrings_iff (h : r.substrings text = .ok tokens) :
    Fragment.Stands tokens ⟨w, x⟩ ↔ w.length ∈ r.below text.length ∧ OccursAt text w x := by
  obtain ⟨tokens', htokens, hstands⟩ := exists_substrings r text
  obtain rfl : tokens' = tokens := Except.ok.inj (htokens.symm.trans h)
  exact hstands w x

theorem length_mem_below (h : r.substrings text = .ok tokens) (ht : t ∈ tokens) :
    t.text.length ∈ r.below text.length := by
  obtain ⟨x, hx⟩ := Fragment.exists_position_of_gather h t ht
  exact ((stands_substrings_iff h).1 ⟨t, ht, rfl, hx⟩).1

/-- A proper substring stands wherever its text occurs. -/
theorem mem_positions_iff (h : r.substrings text = .ok tokens) (ht : t ∈ tokens) :
    x ∈ t.positions ↔ OccursAt text t.text x := by
  constructor
  · intro hx
    exact ((stands_substrings_iff h).1 ⟨t, ht, rfl, hx⟩).2
  · intro hx
    obtain ⟨t', ht', htext, hx'⟩ := (stands_substrings_iff h).2 ⟨length_mem_below h ht, hx⟩
    rwa [← List.inj_on_of_nodup_map (Fragment.nodup_gather h) ht' ht htext]

/-- The first substring of a length is the beginning of the text, and those before it are shorter. -/
theorem exists_split_substrings (h : r.substrings text = .ok tokens) (hn : n ∈ r.below text.length) :
    ∃ front t back, tokens = front ++ t :: back ∧ t.text = text.take n ∧ ∀ u ∈ front, u.text.length < n := by
  have hlength : (text.take n).length = n := List.length_take_of_le (Nat.le_of_lt (bounds_of_mem_below hn).2)
  obtain ⟨shorter, longer, hsplit⟩ := List.append_of_mem hn
  -- The lengths ascend, so what comes before a length is shorter.
  have hshorter : ∀ p ∈ shorter.flatMap (piecesOfLength text), p.text.length < n := by
    have hascending : (r.below text.length).Pairwise (· < ·) := List.pairwise_lt_range'
    rw [hsplit] at hascending
    intro p hp
    obtain ⟨m, hm, hp⟩ := List.mem_flatMap.1 hp
    have hbelow : m ∈ r.below text.length := hsplit ▸ List.mem_append_left _ hm
    rw [((mem_piecesOfLength_iff hbelow).1 hp).1]
    exact (List.pairwise_append.1 hascending).2.2 m hm n (List.mem_cons_self ..)
  obtain ⟨others, hothers⟩ : ∃ others, piecesOfLength text n = ⟨text.take n, 0⟩ :: others := by
    unfold piecesOfLength
    rw [List.range_succ_eq_map, List.map_cons]
    exact ⟨_, rfl⟩
  unfold substrings Fragment.gather at h
  rw [hsplit, List.flatMap_append, List.flatMap_cons, hothers, List.cons_append] at h
  obtain ⟨front, t, back, htokens, ht, hfront⟩ := exists_split_of_gather (fun _ _ => rfl)
    (fun _ _ hmake => (Fragment.makeAt_eq_ok hmake).1) h fun q hq htext => by
      have hlt := hshorter q hq
      rw [htext, hlength] at hlt
      exact Nat.lt_irrefl n hlt
  refine ⟨front, t, back, htokens, ht, fun u hu => ?_⟩
  obtain ⟨q, hq, htext⟩ := hfront u hu
  rw [show u.text = q.text from htext.symm]
  exact hshorter q hq

end LengthRange

end TextAnalysis
