/-
# Common n-grams

Every text has a list of n-grams, all different. So two texts have the same number of them in common whichever comes
first, and no more than either of them has. Dice's coefficient is a fraction therefore, and one for equal texts.
-/
import TextAnalysis.Metric
import TextAnalysis.Proofs.Tokenizers.Substrings
import TextAnalysis.Proofs.Tokenizers.Texts

namespace TextAnalysis

/-! ## N-grams of a text -/

theorem Gram.makeAt_eq_ok {degree position : Nat} {text : Text} {t : Gram} (h : makeAt degree text position = .ok t) :
    Token.text t = text := by
  unfold makeAt at h
  split at h
  · obtain ⟨fragment, hfragment, rfl⟩ := map_eq_ok.1 h
    exact (Fragment.makeAt_eq_ok hfragment).1
  · cases h

/-- A piece that is not empty is an n-gram. -/
theorem Gram.exists_makeAt {p : Piece} (h : p.text ≠ []) : ∃ t, makeAt p.text.length p.text p.position = .ok t := by
  unfold makeAt Fragment.makeAt Fragment.make
  rw [dif_pos (List.length_pos_of_ne_nil h), dif_neg h]
  exact ⟨_, rfl⟩

namespace LengthRange

variable {r : LengthRange} {text : Text}

/-- No n-gram is empty. -/
theorem text_ne_nil_of_mem_grams {p : Piece} (h : p ∈ r.gramsAtStart text ++ r.gramsAfterStart text) :
    p.text ≠ [] := by
  rcases List.mem_append.1 h with h | h
  · obtain ⟨n, hn, rfl⟩ := List.mem_map.1 h
    obtain ⟨hpos, hlt⟩ := bounds_of_mem_below hn
    exact Piece.text_ofSlice_ne_nil (Nat.lt_trans hpos hlt) hpos
  · obtain ⟨i, hi, rfl⟩ := List.mem_map.1 h
    obtain ⟨k, hk, rfl⟩ := List.mem_range'.1 hi
    have hleast := r.least_pos
    have hle := r.least_le
    exact Piece.text_ofSlice_ne_nil (by omega) (by omega)

/-- Every text has n-grams, no text twice. -/
theorem exists_grams (r : LengthRange) (text : Text) :
    ∃ tokens, r.grams text = .ok tokens ∧ (tokens.map Token.text).Nodup := by
  obtain ⟨tokens, htokens⟩ : ∃ tokens, r.grams text = .ok tokens :=
    exists_gather fun p hp => Gram.exists_makeAt (text_ne_nil_of_mem_grams hp)
  exact ⟨tokens, htokens, nodup_gather (fun _ _ => rfl) (fun _ _ ht => Gram.makeAt_eq_ok ht) htokens⟩

end LengthRange

namespace Metric

theorem exists_gramTexts (r : LengthRange) (text : Text) :
    ∃ grams, gramTexts r text = .ok grams ∧ grams.Nodup := by
  obtain ⟨tokens, htokens, hnodup⟩ := r.exists_grams text
  exact ⟨_, map_eq_ok.2 ⟨tokens, htokens, rfl⟩, hnodup⟩

/-! ## N-grams in common -/

section

variable {grams grams' : List Text}

theorem length_shared_comm (h : grams.Nodup) (h' : grams'.Nodup) :
    (grams.filter (grams'.contains ·)).length = (grams'.filter (grams.contains ·)).length := by
  refine List.Perm.length_eq ((List.perm_ext_iff_of_nodup (h.filter _) (h'.filter _)).2 fun gram => ?_)
  simp [and_comm]

theorem length_shared_self (grams : List Text) : (grams.filter (grams.contains ·)).length = grams.length := by
  rw [List.filter_eq_self.2]
  simp

/-- Twice the n-grams in common are no more than those of both texts. -/
theorem two_mul_length_shared_le (h : grams.Nodup) (h' : grams'.Nodup) :
    2 * (grams.filter (grams'.contains ·)).length ≤ grams.length + grams'.length := by
  have hfirst : (grams.filter (grams'.contains ·)).length ≤ grams.length := List.length_filter_le _ _
  have hsecond : (grams'.filter (grams.contains ·)).length ≤ grams'.length := List.length_filter_le _ _
  rw [← length_shared_comm h h'] at hsecond
  omega

end

/-! ## Dice's coefficient -/

section

variable (r : LengthRange) (first second : Text)

/-- Dice's coefficient of two texts with given n-grams. -/
theorem diceScore_eq {r : LengthRange} {first second : Text} {grams grams' : List Text}
    (h : gramTexts r first = .ok grams) (h' : gramTexts r second = .ok grams') :
    diceScore r first second =
      .ok (if grams.length + grams'.length = 0 then .quotient (if first = second then 1 else 0) 1
        else .quotient (2 * (grams.filter (grams'.contains ·)).length) (grams.length + grams'.length)) := by
  unfold diceScore
  rw [h, h', ok_bind, ok_bind]
  dsimp only
  split <;> rfl

theorem diceScore_comm : diceScore r first second = diceScore r second first := by
  obtain ⟨grams, h, hnodup⟩ := exists_gramTexts r first
  obtain ⟨grams', h', hnodup'⟩ := exists_gramTexts r second
  rw [diceScore_eq h h', diceScore_eq h' h, length_shared_comm hnodup hnodup', Nat.add_comm grams.length,
    if_congr (eq_comm (a := first)) rfl rfl]

/-- Dice's coefficient is a fraction of at most one. -/
theorem exists_diceScore : ∃ num den, diceScore r first second = .ok (.quotient num den) ∧ 0 < den ∧ num ≤ den := by
  obtain ⟨grams, h, hnodup⟩ := exists_gramTexts r first
  obtain ⟨grams', h', hnodup'⟩ := exists_gramTexts r second
  rw [diceScore_eq h h']
  split
  · refine ⟨_, 1, rfl, Nat.one_pos, ?_⟩
    split <;> decide
  · rename_i htotal
    exact ⟨_, _, rfl, Nat.pos_of_ne_zero htotal, two_mul_length_shared_le hnodup hnodup'⟩

/-- Dice's coefficient of a text and itself is one. -/
theorem exists_diceScore_self (text : Text) : ∃ n, 0 < n ∧ diceScore r text text = .ok (.quotient n n) := by
  obtain ⟨grams, h, -⟩ := exists_gramTexts r text
  rw [diceScore_eq h h, length_shared_self, if_pos rfl]
  split
  · exact ⟨1, Nat.one_pos, rfl⟩
  · rename_i htotal
    exact ⟨2 * grams.length, by omega, by rw [← Nat.two_mul]⟩

end

end Metric

end TextAnalysis
