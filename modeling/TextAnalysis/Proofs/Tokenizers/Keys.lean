/-
# Cutting around keys to the end

Every occurrence of a key that a key tokenizer finds lies in the rest of the text and is not empty, whatever the values
of its measure. So every round takes at least one character, the rounds come to an end, and the pieces cover the text.
-/
import TextAnalysis.Proofs.Parts
import TextAnalysis.Proofs.Tokenizers.Substrings
import TextAnalysis.Tokenizer.Keys

namespace TextAnalysis

/-! ## Occurrences -/

/-- A span of a text with a given number of characters that is not empty. -/
def Span.Fits (length : Nat) (s : Span) : Prop :=
  0 < s.length ∧ s.start + s.length ≤ length

namespace KeyTokenizer

/-- What is found of a key is its first occurrence. -/
theorem findExact_cases {key : Text} (hkey : key ≠ []) (start : Nat) (text : Text) :
    (∃ i, findExact key start text = some ⟨start + i, key.length, .one⟩ ∧ OccursAt text key i ∧
      ∀ j < i, ¬ OccursAt text key j) ∨
    findExact key start text = none ∧ ∀ i, ¬ OccursAt text key i := by
  induction text generalizing start with
  | nil =>
    right
    rw [findExact, if_neg (by simpa using hkey)]
    exact ⟨rfl, not_occursAt_nil key⟩
  | cons c rest ih =>
    rw [findExact]
    by_cases hstarts : Text.startsWith (c :: rest) key = true
    · rw [if_pos hstarts]
      exact .inl ⟨0, rfl, ⟨hkey, Text.startsWith_iff.1 hstarts⟩, fun j hj => absurd hj (Nat.not_lt_zero j)⟩
    · rw [if_neg hstarts]
      have hzero : ¬ OccursAt (c :: rest) key 0 := fun h => hstarts (Text.startsWith_iff.2 h.2)
      rcases ih (start + 1) with ⟨i, hfound, hoccurs, hfirst⟩ | ⟨hfound, hnone⟩
      · refine .inl ⟨i + 1, by rw [hfound, Nat.add_right_comm, Nat.add_assoc], hoccurs, fun j hj => ?_⟩
        cases j with
        | zero => exact hzero
        | succ j => exact hfirst j (Nat.lt_of_succ_lt_succ hj)
      · refine .inr ⟨hfound, fun i => ?_⟩
        cases i with
        | zero => exact hzero
        | succ i => exact hnone i

theorem fits_findExact {key : Text} (hkey : key ≠ []) {start : Nat} {text : Text} {s : Span}
    (h : findExact key start text = some s) : s.Fits (start + text.length) := by
  rcases findExact_cases hkey start text with ⟨i, hfound, hoccurs, -⟩ | ⟨hnone, -⟩
  · obtain rfl := Option.some.inj (hfound.symm.trans h)
    have hbound := hoccurs.add_length_le
    refine ⟨List.length_pos_of_ne_nil hkey, ?_⟩
    dsimp only
    omega
  · cases hnone.symm.trans h

/-- A candidate for the best span takes the place of the one before, or it does not, whatever its value is. -/
theorem improve_cases {t : Tolerance} {key : Text} {best best' : Option Span} {candidate : Fragment}
    (h : improve t key best candidate = .ok best') :
    best' = best ∨ ∃ score, best' = some ⟨candidate.positions.toList.headD 0, candidate.text.length, score⟩ := by
  unfold improve at h
  obtain ⟨score, -, h⟩ := bind_eq_ok.1 h
  dsimp only at h
  generalize (t.measure.accepts t.threshold score && _) = better at h
  cases better with
  | false =>
    cases h
    exact .inl rfl
  | true =>
    cases h
    exact .inr ⟨score, rfl⟩

/-- The first position of a fragment that has one is a position of it. -/
theorem headD_mem_positions {t : Fragment} (h : ∃ x, x ∈ t.positions) : t.positions.toList.headD 0 ∈ t.positions := by
  obtain ⟨x, hx⟩ := h
  show _ ∈ t.positions.toList
  replace hx : x ∈ t.positions.toList := hx
  cases hlist : t.positions.toList with
  | nil =>
    rw [hlist] at hx
    cases hx
  | cons y ys => exact List.mem_cons_self ..

/-- It is the least position. -/
theorem headD_positions_eq {t : Fragment} {x : Nat} (hx : x ∈ t.positions) (hleast : ∀ y ∈ t.positions, x ≤ y) :
    t.positions.toList.headD 0 = x := by
  have hle := hleast _ (headD_mem_positions ⟨x, hx⟩)
  have hascending := t.positions.ascending
  replace hx : x ∈ t.positions.toList := hx
  cases hlist : t.positions.toList with
  | nil =>
    rw [hlist] at hx
    cases hx
  | cons y ys =>
    rw [hlist] at hx hle hascending
    rcases List.mem_cons.1 hx with rfl | hx
    · rfl
    · exact Nat.le_antisymm (Nat.le_of_lt (List.rel_of_pairwise_cons hascending hx)) hle

theorem fits_findClosest {t : Tolerance} {key text : Text} {s : Span} (h : findClosest t key text = .ok (some s)) :
    s.Fits text.length := by
  obtain ⟨candidates, hcandidates, h⟩ := bind_eq_ok.1 h
  -- The best span so far fits, if there is one.
  refine of_foldlM_eq_ok (fun best => ∀ b ∈ best, b.Fits text.length) ?_ (by simp) h s rfl
  intro best c best' hc hbest hnext
  rcases improve_cases hnext with rfl | ⟨score, rfl⟩
  · exact hbest
  · rintro b ⟨⟩
    have hfirst := headD_mem_positions (Fragment.exists_position_of_gather hcandidates c hc)
    have hoccurs := (LengthRange.mem_positions_iff hcandidates hc).1 hfirst
    exact ⟨List.length_pos_of_ne_nil c.nonempty, hoccurs.add_length_le⟩

theorem fits_find {k : KeyTokenizer} {key text : Text} (hkey : key ∈ k.keys) {s : Span}
    (h : k.find key text = .ok (some s)) : s.Fits text.length := by
  have hexact : findExact key 0 text = some s → s.Fits text.length := fun h => by
    simpa using fits_findExact (k.nonempty key hkey) h
  unfold find at h
  split at h
  · obtain ⟨found, hfound, h⟩ := map_eq_ok.1 h
    rcases Option.or_eq_some_iff.1 h with rfl | ⟨-, h⟩
    · exact fits_findClosest hfound
    · exact hexact h
  · exact hexact (Except.ok.inj h)

/-- The occurrence that starts first is one of those found. -/
theorem earlier_eq_some {a b : Option Span} {s : Span} (h : earlier a b = some s) : a = some s ∨ b = some s := by
  unfold earlier at h
  split at h
  · split at h
    · exact .inr h
    · exact .inl h
  · exact .inr h
  · exact .inl h

theorem fits_closest {k : KeyTokenizer} {text : Text} {s : Span} (h : k.closest text = .ok (some s)) :
    s.Fits text.length := by
  -- The occurrence so far that starts first fits, if there is one.
  refine of_foldlM_eq_ok (fun best => ∀ b ∈ best, b.Fits text.length) ?_ (by simp) h s rfl
  intro best key best' hkey hbest hnext b hb
  obtain ⟨found, hfound, rfl⟩ := map_eq_ok.1 hnext
  rcases earlier_eq_some hb with rfl | rfl
  · exact hbest b rfl
  · exact fits_find hkey hfound

/-! ## Rounds -/

/-- The pieces cover the rest of the text, if there are as many rounds as it has characters. -/
theorem tiles_cut {k : KeyTokenizer} {steps offset : Nat} {rest : Text} {pieces : List Piece}
    (hsteps : rest.length ≤ steps) (h : k.cut steps offset rest = .ok pieces) : Tiles offset rest pieces := by
  induction steps generalizing offset rest pieces with
  | zero =>
    cases h
    rw [List.eq_nil_of_length_eq_zero (Nat.le_zero.1 hsteps)]
    exact .nil offset
  | succ steps ih =>
    unfold cut at h
    split at h
    · rename_i hempty
      cases h
      rw [List.isEmpty_iff.1 hempty]
      exact .nil offset
    · rename_i hempty
      obtain ⟨found, hfound, h⟩ := bind_eq_ok.1 h
      cases found with
      | none =>
        cases h
        exact .single offset (by simpa using hempty)
      | some s =>
        obtain ⟨hpos, hbound⟩ := fits_closest hfound
        obtain ⟨later, hlater, h⟩ := bind_eq_ok.1 h
        cases h
        -- What was found takes at least one character, so a round less suffices for the rest.
        have htiles : Tiles (offset + (s.start + s.length)) (rest.drop (s.start + s.length)) later :=
          ih (by rw [List.length_drop]; omega) hlater
        have hhere : Tiles (offset + s.start) (rest.drop s.start)
            (⟨(rest.drop s.start).take s.length, offset + s.start⟩ :: later) := by
          refine .cons_take hpos (by rw [List.length_drop]; omega) ?_
          rwa [List.drop_drop, Nat.add_assoc]
        -- In front of what was found stands a piece of its own, unless it is empty.
        cases hstart : s.start with
        | zero =>
          rw [hstart] at hhere
          exact hhere
        | succ n =>
          rw [hstart] at hhere hbound
          have hbefore : ¬ (rest.take (n + 1)).isEmpty = true := by
            rw [List.isEmpty_iff_length_eq_zero, List.length_take]
            omega
          rw [if_neg hbefore]
          exact .cons_take (Nat.succ_pos n) (by omega) hhere

/-- More rounds than the rest of the text has characters make no difference. -/
theorem cut_eq {k : KeyTokenizer} {steps steps' offset : Nat} {rest : Text} (hsteps : rest.length ≤ steps)
    (hsteps' : rest.length ≤ steps') : k.cut steps offset rest = k.cut steps' offset rest := by
  have hnil : ∀ steps offset, k.cut steps offset [] = .ok [] := fun steps _ => by cases steps <;> rfl
  induction steps generalizing steps' offset rest with
  | zero =>
    obtain rfl := List.eq_nil_of_length_eq_zero (Nat.le_zero.1 hsteps)
    rw [hnil, hnil]
  | succ steps ih =>
    cases steps' with
    | zero =>
      obtain rfl := List.eq_nil_of_length_eq_zero (Nat.le_zero.1 hsteps')
      rw [hnil, hnil]
    | succ steps' =>
      unfold cut
      split
      · rfl
      · cases hfound : k.closest rest with
        | error e => rfl
        | ok found =>
          cases found with
          | none => rfl
          | some s =>
            obtain ⟨hpos, hbound⟩ := fits_closest hfound
            have hlater : k.cut steps (offset + (s.start + s.length)) (rest.drop (s.start + s.length)) =
                k.cut steps' (offset + (s.start + s.length)) (rest.drop (s.start + s.length)) :=
              ih (by rw [List.length_drop]; omega) (by rw [List.length_drop]; omega)
            rw [ok_bind, ok_bind]
            dsimp only
            rw [hlater]

end KeyTokenizer

end TextAnalysis
