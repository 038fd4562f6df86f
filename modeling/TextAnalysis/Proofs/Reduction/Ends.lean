/-
# Ends of a phrase

The operands at the two ends of a phrase are masked, and merges bring none back. So a phrase of numbers that has
become a single word holds a resolved number, which can be extracted.
-/
import TextAnalysis.Proofs.Reduction.Merging

namespace TextAnalysis.Phrase

/-! ## Ends -/

/-- No operand faces an end of a list of values. -/
structure EndsFree (ns : List Numeral) : Prop where
  first : ∀ n ∈ ns.head?, n.left = none
  last : ∀ n ∈ ns.getLast?, n.right = none

/-- The values of a masked phrase have no operand that faces an end. -/
theorem endsFree_masked (ms : List (Meaning Numeral)) :
    EndsFree (ms.zipIdx.map fun (m, i) => masked ms.length i m) := by
  constructor
  · intro n hn
    cases ms with
    | nil => cases hn
    | cons m ms =>
      cases hn
      rfl
  · intro n hn
    rw [List.getLast?_map, List.getLast?_eq_getElem?, List.getElem?_zipIdx, List.length_zipIdx] at hn
    obtain ⟨⟨m, i⟩, hm, rfl⟩ := Option.map_eq_some_iff.1 hn
    obtain ⟨m', hm', heq⟩ := Option.map_eq_some_iff.1 hm
    cases heq
    have hlt := (List.getElem?_eq_some_iff.1 hm').1
    exact if_pos (by omega)

/-- A merge gives no operand that faces an end. -/
theorem Joins.endsFree {ns ns' : List Numeral} (h : Joins ns ns') (hns : EndsFree ns) :
    EndsFree ns' := by
  cases h with
  | @intro l r a b side o x hside ho hx hleast =>
    obtain ⟨hfirst, hlast⟩ := hns
    constructor
    · -- The joined value begins where its first value began and ends where its second one ended.
      cases l with
      | nil =>
        intro n hn
        cases hn
        exact hfirst a rfl
      | cons c l => exact hfirst
    · cases hr : r.getLast? with
      | none =>
        intro n hn
        rw [List.getLast?_eq_none_iff] at hr
        subst hr
        rw [List.getLast?_append] at hn
        cases hn
        exact hlast b (by rw [List.getLast?_append]; rfl)
      | some c =>
        intro n hn
        refine hlast n ?_
        rw [List.getLast?_append, List.getLast?_cons, hr] at hn
        rw [List.getLast?_append, List.getLast?_cons, List.getLast?_cons, hr]
        exact hn

/-! ## Numbers -/

theorem isResolved_iff {n : Numeral} :
    n.isResolved = true ↔ n.isModifier = false ∧ n.left = none ∧ n.right = none := by
  unfold Numeral.isResolved Numeral.isModifier
  cases n.kind <;> cases n.left <;> cases n.right <;> simp

/-- Masking numbers leaves numbers. -/
theorem numbers_masked {ms : List (Meaning Numeral)} (h : ∀ m ∈ ms, m.value.isModifier = false)
    (size : Nat) : ∀ n ∈ ms.zipIdx.map fun (m, i) => masked size i m, n.isModifier = false := by
  intro n hn
  obtain ⟨⟨m, i⟩, hm, rfl⟩ := List.mem_map.1 hn
  exact h m (List.fst_mem_of_mem_zipIdx hm)

/-- A merge of numbers leaves numbers. -/
theorem Joins.numbers {ns ns' : List Numeral} (h : Joins ns ns')
    (hns : ∀ n ∈ ns, n.isModifier = false) : ∀ n ∈ ns', n.isModifier = false := by
  cases h with
  | @intro l r a b side o x hside ho hx hleast =>
    intro n hn
    rcases List.mem_append.1 hn with hn | hn
    · exact hns n (List.mem_append_left _ hn)
    · rcases List.mem_cons.1 hn with rfl | hn
      · rfl
      · exact hns n (List.mem_append_right _ (by simp [hn]))

/-! ## Reducing numbers -/

/-- A phrase of numbers can be masked. -/
theorem exists_mask {p : Phrase} {ms : List (Meaning Numeral)}
    (hms : p.tokens.map (·.current.meaning) = ms.map some)
    (hnumbers : ∀ m ∈ ms, m.value.isModifier = false) : ∃ q, p.mask = .ok q := by
  refine exists_mask_iff.2 fun w i hw => ?_
  obtain ⟨m, hm, hmeaning⟩ := exists_mem_of_map_eq_map_some hms (List.mem_of_getElem? hw)
  refine ⟨m, hmeaning, fun h => ?_⟩
  rw [hnumbers m hm] at h
  cases h

/-- A phrase of numbers reduces, if the merge that goes first always keeps a property of the values under which it
can be made. -/
theorem exists_reduce {p : Phrase} {ms : List (Meaning Numeral)}
    (hms : p.tokens.map (·.current.meaning) = ms.map some)
    (hnumbers : ∀ m ∈ ms, m.value.isModifier = false) {P : List Numeral → Prop}
    (hP : P (ms.zipIdx.map fun (m, i) => masked ms.length i m))
    (hstep : ∀ l a b r side, P (l ++ a :: b :: r) → mergeSide a b = some side →
      Least side (side.owner a b).value.natAbs (l ++ a :: b :: r) →
      ∃ o x, side.operand a b = some o ∧
        o.apply (side.owner a b).value (side.consumed a b).value = .ok x ∧
          P (l ++ joinedValue a b x :: r)) :
    ∃ t ns, p.reduce = .ok t ∧ t.Reads ns ∧ P ns ∧ t.nextCandidate = .ok none := by
  obtain ⟨q, hq⟩ := exists_mask hms hnumbers
  have hsize : p.tokens.length = ms.length := by simpa using congrArg List.length hms
  have hreads := reads_of_mask hq hms
  rw [Sequence.size, hsize] at hreads
  -- The hypothesis on the merge that goes first says that it succeeds and that it keeps the property.
  have haccepts : ∀ l a b r side, P (l ++ a :: b :: r) → mergeSide a b = some side →
      Least side (side.owner a b).value.natAbs (l ++ a :: b :: r) →
      ∃ o x, side.operand a b = some o ∧
        o.apply (side.owner a b).value (side.consumed a b).value = .ok x := by
    intro l a b r side h hside hleast
    obtain ⟨o, x, ho, hx, -⟩ := hstep l a b r side h hside hleast
    exact ⟨o, x, ho, hx⟩
  have hkeeps : ∀ ns ns', P ns → Joins ns ns' → P ns' := by
    rintro ns ns' h ⟨hside, ho, hx, hleast⟩
    obtain ⟨o', x', ho', hx', h'⟩ := hstep _ _ _ _ _ h hside hleast
    obtain rfl := Option.some.inj (ho.symm.trans ho')
    obtain rfl := Except.ok.inj (hx.symm.trans hx')
    exact h'
  obtain ⟨t, ns, ht, hns, hPns, hend⟩ :=
    reduceWithin_eq_ok haccepts hkeeps hreads hP (by omega : q.size < 3 * q.size + 1)
  refine ⟨t, ns, ?_, hns, hPns, hend⟩
  unfold reduce
  rw [hq, ok_bind, ht]

/-- A number is extracted exactly from a phrase of a single word that is a resolved number. -/
theorem extract_eq_ok_iff {t : Phrase} {x : Int} :
    t.extract = .ok x ↔ ∃ n, t.Reads [n] ∧ n.isResolved = true ∧ n.value = x := by
  unfold extract Reads
  cases ht : t.tokens with
  | nil => simp
  | cons w ws =>
    cases ws with
    | cons w' ws => simp
    | nil =>
      cases hw : w.current.value? with
      | none => simp [hw]
      | some n =>
        by_cases hn : n.isResolved = true
        · simp [hw, hn]
        · by_cases hmod : n.isModifier = true
          · simp [hw, hn, hmod]
          · simp [hw, hn, hmod]

/-- An extraction fails for lack of words, for what is wrong with a single word, or for more than one word. -/
theorem extract_error_cases {t : Phrase} {e : Error} (h : t.extract = .error e) :
    (t.tokens = [] ∧ e = .malformed t.text .noNumeral) ∨
      (t.size = 1 ∧ ∃ r ∈ [.untranslatedWord, .modifierWithoutNumber, .operandPending], e = .malformed t.text r) ∨
      (2 ≤ t.size ∧ e = .malformed t.text (.numbersRemain t.size)) := by
  unfold extract at h
  unfold Sequence.size at *
  cases ht : t.tokens with
  | nil =>
    simp only [ht, Except.error.injEq] at h
    exact .inl ⟨rfl, h.symm⟩
  | cons w ws =>
    cases ws with
    | nil =>
      refine .inr (.inl ⟨rfl, ?_⟩)
      simp only [ht] at h
      split at h
      · cases h
        exact ⟨_, by simp, rfl⟩
      · split at h
        · cases h
        · split at h
          · cases h
            exact ⟨_, by simp, rfl⟩
          · cases h
            exact ⟨_, by simp, rfl⟩
    | cons w' ws =>
      simp only [ht, Except.error.injEq] at h
      refine .inr (.inr ⟨?_, h.symm⟩)
      rw [List.length_cons, List.length_cons]
      omega

end TextAnalysis.Phrase
