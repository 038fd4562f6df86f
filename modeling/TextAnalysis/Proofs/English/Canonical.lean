/-
# Canonical words

The parser reads more than the canonical words of a number: other words for zero and forty, teens written in two
words, and a power of ten without a number before it. This module brings all of them into their canonical form.
-/
import TextAnalysis.Proofs.English.Spelling

namespace TextAnalysis.English

/-! ## Other words -/

/-- The canonical word for a word of the vocabulary. -/
def respell (w : Text) : Text :=
  if w = "null".toList ∨ w = "nil".toList then "zero".toList
  else if w = "fourty".toList then "forty".toList
  else w

/-! ## Teens -/

/-- The ending of the teens. -/
def teenWord : Text :=
  "teen".toList

/-- The word for ten more than a unit from three to nine, if it is such a unit. -/
def teenOf? (w : Text) : Option Text :=
  match smallWords.idxOf? w with
  | some k => if 3 ≤ k ∧ k ≤ 9 then smallWords[k + 10]? else none
  | none => none

/-- The single word for a unit and the ending of the teens. -/
def fused? (u w : Text) : Option Text :=
  if w = teenWord then teenOf? u else none

/-- Writes the teens in one word. -/
def fuseTeens : List Text → List Text
  | u :: w :: rest =>
    match fused? u w with
    | some x => x :: fuseTeens rest
    | none => u :: fuseTeens (w :: rest)
  | ws => ws

theorem fuseTeens_ne_nil {ws : List Text} (h : ws ≠ []) : fuseTeens ws ≠ [] := by
  cases ws with
  | nil => exact absurd rfl h
  | cons u ws =>
    cases ws with
    | nil => simp [fuseTeens]
    | cons w rest =>
      rw [fuseTeens]
      split
      · simp
      · simp

theorem fused?_eq_none {u w : Text} (h : w ≠ teenWord) : fused? u w = none :=
  if_neg h

/-- Words that do not begin with the ending of the teens are fused on their own. -/
theorem fuseTeens_append {xs ys : List Text} (h : ys.head? ≠ some teenWord) :
    fuseTeens (xs ++ ys) = fuseTeens xs ++ fuseTeens ys := by
  induction xs using fuseTeens.induct with
  | case1 u w rest x hx ih =>
    rw [List.cons_append, List.cons_append, fuseTeens, fuseTeens, hx]
    exact congrArg (x :: ·) ih
  | case2 u w rest hnone ih =>
    rw [List.cons_append, List.cons_append, fuseTeens, fuseTeens, hnone]
    exact congrArg (u :: ·) ih
  | case3 xs hshort =>
    -- Too few words are left to be fused with each other, and the next ones do not begin with the ending.
    cases xs with
    | nil => rfl
    | cons u xs =>
      cases xs with
      | cons w rest => exact absurd rfl (hshort u w rest)
      | nil =>
        cases ys with
        | nil => rfl
        | cons y ys =>
          have hy : y ≠ teenWord := fun hy => h (congrArg some hy)
          rw [List.singleton_append, fuseTeens, fused?_eq_none hy]
          rfl

/-- What is fused to a single word that is none of the teens has been that word. -/
theorem eq_singleton_of_fuseTeens {ws : List Text} {u : Text} (h : fuseTeens ws = [u])
    (hu : ∀ w, teenOf? w ≠ some u) : ws = [u] := by
  cases ws with
  | nil => cases h
  | cons v ws =>
    cases ws with
    | nil => exact h
    | cons w rest =>
      rw [fuseTeens] at h
      split at h
      · rename_i x hx
        obtain ⟨rfl, -⟩ := List.cons.inj h
        unfold fused? at hx
        split at hx
        · exact absurd hx (hu v)
        · cases hx
      · exact absurd (List.cons.inj h).2 (fuseTeens_ne_nil (by simp))

/-- A word that is made a teen is a unit, and the teen is no unit. -/
theorem exists_of_teenOf? {u x : Text} (h : teenOf? u = some x) :
    ∃ k, 3 ≤ k ∧ k ≤ 9 ∧ smallWords.idxOf? u = some k ∧ smallWords[k + 10]? = some x := by
  unfold teenOf? at h
  split at h
  · rename_i k hk
    split at h
    · rename_i hbounds
      exact ⟨k, hbounds.1, hbounds.2, hk, h⟩
    · cases h
  · cases h

theorem teenOf?_smallWords : ∀ k < 10, 3 ≤ k →
    teenOf? (smallWords.getD k []) = some (smallWords.getD (k + 10) []) := by
  decide

/-- No unit is one of the teens. -/
theorem teenOf?_ne_unit {k : Nat} (hk : k < 10) (w : Text) : teenOf? w ≠ some (smallWords.getD k []) := by
  intro h
  obtain ⟨j, hlow, hhigh, -, hx⟩ := exists_of_teenOf? h
  have hall : ∀ j < 10, ∀ k < 10, smallWords[j + 10]? ≠ some (smallWords.getD k []) := by decide
  exact hall j (by omega) k hk hx

/-- A unit from three to nine and the ending of the teens make ten more. -/
theorem fuseTeens_append_teen {ws : List Text} {k : Nat} (hlow : 3 ≤ k) (hhigh : k ≤ 9)
    (h : fuseTeens ws = spell k) : fuseTeens (ws ++ [teenWord]) = spell (10 + k) := by
  have hunit : ∀ k < 10, spell k = [smallWords.getD k []] := by decide
  have hteen : ∀ k < 10, spell (10 + k) = [smallWords.getD (k + 10) []] := by decide
  rw [hunit k (by omega)] at h
  rw [eq_singleton_of_fuseTeens h (teenOf?_ne_unit (by omega)), hteen k (by omega),
    List.singleton_append, fuseTeens]
  unfold fused?
  rw [if_pos rfl, teenOf?_smallWords k (by omega) hlow]
  rfl

/-! ## Powers of ten in front -/

/-- Puts the word for one in front of a power of ten at the beginning. -/
def prefixOne : List Text → List Text
  | [] => []
  | w :: ws => if w ∈ scales.map (·.word) then "one".toList :: w :: ws else w :: ws

/-- The canonical form of words. -/
def canonical (ws : List Text) : List Text :=
  prefixOne (fuseTeens (ws.map respell))

theorem ne_teenWord_of_mem_scales : ∀ w ∈ scales.map (·.word), w ≠ teenWord := by
  decide

/-- Fused words begin with a power of ten exactly if the words before do. -/
theorem exists_fuseTeens_cons (w : Text) (ws : List Text) :
    ∃ x rest, fuseTeens (w :: ws) = x :: rest ∧
      (x ∈ scales.map (·.word) ↔ w ∈ scales.map (·.word)) := by
  cases ws with
  | nil => exact ⟨w, [], rfl, Iff.rfl⟩
  | cons w' ws =>
    rw [fuseTeens]
    cases hx : fused? w w' with
    | none => exact ⟨w, _, rfl, Iff.rfl⟩
    | some x =>
      refine ⟨x, _, rfl, iff_of_false ?_ ?_⟩
      · unfold fused? at hx
        split at hx
        · obtain ⟨k, -, hk, -, hx⟩ := exists_of_teenOf? hx
          have hall : ∀ k < 10, ∀ w ∈ scales.map (·.word), smallWords[k + 10]? ≠ some w := by decide
          exact fun hmem => hall k (by omega) x hmem hx
        · cases hx
      · -- A power of ten is no unit, so it is not fused with what stands behind it.
        have hall : ∀ w ∈ scales.map (·.word), teenOf? w = none := by decide
        intro hmem
        unfold fused? at hx
        rw [hall w hmem] at hx
        split at hx
        · cases hx
        · cases hx

/-- It makes no difference whether teens are fused before or after a power of ten is given a number. -/
theorem prefixOne_fuseTeens (ws : List Text) : prefixOne (fuseTeens ws) = fuseTeens (prefixOne ws) := by
  cases ws with
  | nil => rfl
  | cons w ws =>
    obtain ⟨x, rest, hfuse, hpower⟩ := exists_fuseTeens_cons w ws
    rw [hfuse, prefixOne, prefixOne]
    by_cases hw : w ∈ scales.map (·.word)
    · rw [if_pos hw, if_pos (hpower.2 hw), fuseTeens, fused?_eq_none (ne_teenWord_of_mem_scales w hw), hfuse]
    · rw [if_neg hw, if_neg (mt hpower.1 hw), hfuse]

end TextAnalysis.English
