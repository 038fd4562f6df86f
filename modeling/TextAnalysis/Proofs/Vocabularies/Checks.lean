/-
# Vocabularies that are in order

What the check of a vocabulary lets through: a code, a pattern as delimiter, and words that differ in more than their
case, each with operands that accept some value. A modifier has exactly one operand, and an association names no side
without one.
-/
import TextAnalysis.Numeral.Vocabulary
import TextAnalysis.Proofs.Outcomes

namespace TextAnalysis

/-! ## Entries -/

namespace VocabularyEntry

/-- An entry with a word, with operands that accept some value, with exactly one operand if it is a modifier, and with
an operand on every side that its association names. -/
structure InOrder (e : VocabularyEntry) : Prop where
  word : e.word.isAllBlank = false
  left : ∀ o ∈ e.left, o.low ≤ o.high
  right : ∀ o ∈ e.right, o.low ≤ o.high
  modifier : e.kind = .modifier → e.left.isSome ≠ e.right.isSome
  sides : ∀ a ∈ e.association, (a.allowsLeft → e.left.isSome) ∧ (a.allowsRight → e.right.isSome)

theorem checkOperand_eq_ok_iff {e : VocabularyEntry} {side : Side} {o : Option Operand} :
    e.checkOperand side o = .ok () ↔ ∀ x ∈ o, x.low ≤ x.high := by
  unfold checkOperand
  cases o with
  | none => simp
  | some o => simp

theorem hasNamedSides_iff {e : VocabularyEntry} : e.hasNamedSides = true ↔
    ∀ a ∈ e.association, (a.allowsLeft → e.left.isSome) ∧ (a.allowsRight → e.right.isSome) := by
  unfold hasNamedSides
  cases e.association with
  | none => simp
  | some a =>
    simp only [Option.mem_some_iff, forall_eq', Bool.and_eq_true, Bool.or_eq_true, Bool.not_eq_true']
    rw [← Bool.not_eq_true, ← Bool.not_eq_true, ← Decidable.imp_iff_not_or, ← Decidable.imp_iff_not_or]

/-- An entry passes its check exactly if it is in order. -/
theorem check_eq_ok_iff {e : VocabularyEntry} : e.check = .ok () ↔ e.InOrder := by
  have hmodifier : ¬ (e.kind == .modifier && e.left.isSome == e.right.isSome) = true ↔
      (e.kind = .modifier → e.left.isSome ≠ e.right.isSome) := by simp
  unfold check
  dsimp only
  rw [check_bind_eq_ok, unit_bind_eq_ok, unit_bind_eq_ok, check_bind_eq_ok, hmodifier, checkOperand_eq_ok_iff,
    checkOperand_eq_ok_iff, Bool.not_eq_true]
  constructor
  · rintro ⟨hword, hleft, hright, hmodifier, hsides⟩
    refine ⟨hword, hleft, hright, hmodifier, hasNamedSides_iff.1 ?_⟩
    split at hsides
    · by_contra hnamed
      rw [Bool.not_eq_true] at hnamed
      rw [hnamed] at hsides
      cases hsides
    · rename_i hnone
      unfold hasNamedSides
      rw [hnone]
  · rintro ⟨hword, hleft, hright, hmodifier, hsides⟩
    refine ⟨hword, hleft, hright, hmodifier, ?_⟩
    rw [hasNamedSides_iff.2 hsides]
    split <;> rfl

end VocabularyEntry

/-! ## Vocabularies -/

namespace Vocabulary

/-- A vocabulary with a code, with entries that are in order and whose words are different in lower case, and with a
delimiter that is the written form of a pattern. -/
structure InOrder [PatternEngine] (v : Vocabulary) : Prop where
  code : v.code.isAllBlank = false
  entries : v.entries ≠ []
  delimiter : ∃ p, PatternEngine.compile v.delimiter = .ok p
  each : ∀ e ∈ v.entries, e.InOrder
  distinct : (v.entries.map (·.word.lowercase)).Nodup

/-- Entries pass their check exactly if each is in order and no word is there twice or was there before, up to case. -/
theorem checkEntries_eq_ok_iff {seen : List Text} {es : List VocabularyEntry} : checkEntries seen es = .ok () ↔
    (∀ e ∈ es, e.InOrder) ∧ (es.map (·.word.lowercase)).Nodup ∧ ∀ e ∈ es, e.word.lowercase ∉ seen := by
  induction es generalizing seen with
  | nil => simp [checkEntries]
  | cons e rest ih =>
    unfold checkEntries
    dsimp only
    rw [unit_bind_eq_ok, VocabularyEntry.check_eq_ok_iff, check_bind_eq_ok, ih, List.contains_iff_mem, List.map_cons,
      List.nodup_cons, List.forall_mem_cons, List.forall_mem_cons]
    simp only [List.mem_map, List.mem_cons, not_or, not_exists, not_and]
    constructor
    · rintro ⟨he, hnew, hrest, hnodup, hlater⟩
      exact ⟨⟨he, hrest⟩, ⟨fun l hl => (hlater l hl).1, hnodup⟩, hnew, fun l hl => (hlater l hl).2⟩
    · rintro ⟨⟨he, hrest⟩, ⟨hfresh, hnodup⟩, hnew, hlater⟩
      exact ⟨he, hnew, hrest, hnodup, fun l hl => ⟨hfresh l hl, hlater l hl⟩⟩

/-- A vocabulary passes its check exactly if it is in order. -/
theorem check_eq_ok_iff [PatternEngine] {v : Vocabulary} : v.check = .ok () ↔ v.InOrder := by
  unfold check
  rw [mapError_eq_ok]
  unfold checkContent
  dsimp only
  rw [check_bind_eq_ok, check_bind_eq_ok, Bool.not_eq_true, List.isEmpty_iff]
  constructor
  · rintro ⟨hcode, hentries, h⟩
    split at h
    · cases h
    · obtain ⟨heach, hdistinct, -⟩ := checkEntries_eq_ok_iff.1 h
      exact ⟨hcode, hentries, ⟨_, ‹_›⟩, heach, hdistinct⟩
  · rintro ⟨hcode, hentries, ⟨p, hp⟩, heach, hdistinct⟩
    refine ⟨hcode, hentries, ?_⟩
    rw [hp]
    exact checkEntries_eq_ok_iff.2 ⟨heach, hdistinct, fun _ _ => List.not_mem_nil⟩

/-- A vocabulary that is checked is the same one afterwards. -/
theorem checked_eq_ok_iff [PatternEngine] {v w : Vocabulary} : v.checked = .ok w ↔ v = w ∧ v.InOrder := by
  unfold checked
  rw [map_eq_ok, ← check_eq_ok_iff]
  exact ⟨fun ⟨_, h, hw⟩ => ⟨hw, h⟩, fun ⟨hw, h⟩ => ⟨(), h, hw⟩⟩

end Vocabulary

end TextAnalysis
