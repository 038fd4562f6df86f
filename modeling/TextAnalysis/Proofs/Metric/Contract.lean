/-
# What all metrics have in common

Whichever of two texts comes first, a metric has the same value for them or none. Its values lie between its least and
its greatest value, and for a text and itself it has the best of them.
-/
import TextAnalysis.Proofs.Metric.Dice
import TextAnalysis.Proofs.Metric.Ordering
import TextAnalysis.Proofs.Metric.Scores

namespace TextAnalysis.Metric

/-- The value of a metric for texts that are as similar as can be. -/
def best (m : Metric) : Binary64 :=
  if m.isGain then m.greatest else m.least

theorem best_eq (m : Metric) : m.best = if m.scale = .similarity then .one else .zero := by
  unfold best isGain greatest least
  cases m.scale <;> rfl

/-! ## Exchanged texts -/

/-- The values for two texts are equal, or there is none, whichever of them comes first. -/
theorem evaluate_comm (m : Metric) (first second : Text) :
    (∃ x, m.evaluate first second = .ok x ∧ m.evaluate second first = .ok x) ∨
      ∃ e e', m.evaluate first second = .error e ∧ m.evaluate second first = .error e' := by
  have hlength : max second.length first.length = max first.length second.length := Nat.max_comm ..
  cases m with
  | levenshtein s =>
    refine .inl ⟨_, rfl, ?_⟩
    show Except.ok (s.report _ _) = _
    rw [hlength, Levenshtein.countsEdits_distance.symm second first]
  | alignment => exact .inl ⟨_, rfl, by rw [Alignment.distance_comm first second]; rfl⟩
  | damerau s =>
    refine .inl ⟨_, rfl, ?_⟩
    show Except.ok (s.report _ _) = _
    rw [hlength, Damerau.countsEdits_distance.symm second first]
  | hamming s =>
    by_cases h : first.length = second.length
    · refine .inl ⟨_, if_pos h, (if_pos h.symm).trans ?_⟩
      rw [hlength, mismatches_comm]
    · exact .inr ⟨_, _, if_neg h, if_neg fun h' => h h'.symm⟩
  | dice r =>
    obtain ⟨num, den, hscore, -⟩ := exists_diceScore r first second
    exact .inl ⟨_, hscore, (diceScore_comm r second first).trans hscore⟩

/-! ## Bounds -/

/-- Values lie between the least and the greatest value. -/
theorem between_evaluate {m : Metric} {first second : Text} {x : Score} (h : m.evaluate first second = .ok x)
    (hword : m.scale = .distance → max first.length second.length ≤ Integer64.greatestUnsigned) :
    x.Between m.least m.greatest := by
  -- Every distance is at most the Levenshtein distance, and that at most the length of the longer text.
  have hlevenshtein := Levenshtein.distance_le_max first second
  have halignment := (Alignment.distance_le_levenshtein first second).trans hlevenshtein
  cases m with
  | levenshtein s =>
    cases h
    exact s.between_report hlevenshtein hword
  | alignment =>
    cases h
    exact Score.between_count (halignment.trans (hword rfl))
  | damerau s =>
    cases h
    exact s.between_report ((Damerau.distance_le_alignment first second).trans halignment) hword
  | hamming s =>
    unfold evaluate at h
    dsimp only at h
    split at h
    · cases h
      exact s.between_report ((mismatches_le_left first second).trans (Nat.le_max_left ..)) hword
    · cases h
  | dice r =>
    obtain ⟨num, den, hscore, hden, hle⟩ := exists_diceScore r first second
    cases hscore.symm.trans h
    exact Score.between_quotient hden hle

/-! ## Equal texts -/

/-- A text and itself have the best value. -/
theorem exists_evaluate_self (m : Metric) (text : Text) : ∃ x, m.evaluate text text = .ok x ∧ x.Is m.best := by
  rw [best_eq]
  cases m with
  | levenshtein s =>
    refine ⟨_, rfl, ?_⟩
    rw [Levenshtein.countsEdits_distance.eq_zero_iff.2 rfl]
    exact s.report_zero_is _
  | alignment =>
    refine ⟨_, rfl, ?_⟩
    rw [Alignment.distance_self]
    exact Score.count_zero_is
  | damerau s =>
    refine ⟨_, rfl, ?_⟩
    rw [Damerau.countsEdits_distance.eq_zero_iff.2 rfl]
    exact s.report_zero_is _
  | hamming s =>
    refine ⟨_, if_pos rfl, ?_⟩
    rw [mismatches_self]
    exact s.report_zero_is _
  | dice r =>
    obtain ⟨n, hn, hscore⟩ := exists_diceScore_self r text
    exact ⟨_, hscore, Score.quotient_self_is hn⟩

/-! ## The contract -/

/-- Every metric has the same value for two texts whichever of them comes first, or none. Every value lies between the
least and the greatest value of the metric, and the value for a text and itself is the best one, exactly and also after
rounding. Distances that are reported as they are lie below the greatest finite number because lengths fit into a
word. -/
theorem evaluate_contract (m : Metric) (first second : Text) :
    ((∃ x, m.evaluate first second = .ok x ∧ m.evaluate second first = .ok x) ∨
      ∃ e e', m.evaluate first second = .error e ∧ m.evaluate second first = .error e') ∧
    (∀ x, m.evaluate first second = .ok x →
      (m.scale = .distance → max first.length second.length ≤ Integer64.greatestUnsigned) →
      x.Between m.least m.greatest) ∧
    ∃ x, m.evaluate first first = .ok x ∧ x.Is m.best :=
  ⟨m.evaluate_comm first second, fun _ h hword => between_evaluate h hword, m.exists_evaluate_self first⟩

/-- Two texts at the distance three, which is a number of the metric's range. -/
theorem evaluate_contract_sitting :
    (levenshtein .distance).evaluate "kitten".toList "sitting".toList = .ok (.count 3) ∧
      (Score.count 3).Between (levenshtein .distance).least (levenshtein .distance).greatest :=
  have hscore : (levenshtein .distance).evaluate "kitten".toList "sitting".toList = .ok (.count 3) := by decide
  ⟨hscore, (evaluate_contract (levenshtein .distance) "kitten".toList "sitting".toList).2.1 _ hscore fun _ => by decide⟩

end TextAnalysis.Metric
