/-
# Masked phrases

What masking makes of a phrase: every word keeps its text, its positions and its value, and loses the operands
that its association forbids or that face an end of the phrase.
-/
import TextAnalysis.Numeral.Reduction
import TextAnalysis.Proofs.Visits

namespace TextAnalysis.Phrase

/-! ## Operands that stay -/

/-- The left operand that the association of a word allows. -/
def allowedLeft (m : Meaning Numeral) : Option Operand :=
  if (m.association.getD .bidirectional).allowsLeft then m.value.left else none

/-- The right operand that the association of a word allows. -/
def allowedRight (m : Meaning Numeral) : Option Operand :=
  if (m.association.getD .bidirectional).allowsRight then m.value.right else none

/-- What is left of the value of a word at an index of a phrase: the operands that its association allows and
that do not face an end. -/
def masked (size index : Nat) (m : Meaning Numeral) : Numeral :=
  m.value.withOperands (if index = 0 then none else allowedLeft m)
    (if index + 1 = size then none else allowedRight m)

/-- A word may be masked unless it is a modifier whose operands face an end or are all forbidden. -/
def Maskable (size index : Nat) (m : Meaning Numeral) : Prop :=
  m.value.isModifier = true →
    (index = 0 → allowedLeft m = none) ∧ (index + 1 = size → allowedRight m = none) ∧
      (allowedLeft m ≠ none ∨ allowedRight m ≠ none)

@[simp] theorem masked_isModifier (size index : Nat) (m : Meaning Numeral) :
    (masked size index m).isModifier = m.value.isModifier :=
  rfl

@[simp] theorem masked_value (size index : Nat) (m : Meaning Numeral) :
    (masked size index m).value = m.value.value :=
  rfl

theorem masked_left_of_pos {size index : Nat} (h : 0 < index) (m : Meaning Numeral) :
    (masked size index m).left = allowedLeft m := by
  show (if index = 0 then none else allowedLeft m) = allowedLeft m
  rw [if_neg (by omega)]

theorem masked_right_of_lt {size index : Nat} (h : index + 1 < size) (m : Meaning Numeral) :
    (masked size index m).right = allowedRight m := by
  show (if index + 1 = size then none else allowedRight m) = allowedRight m
  rw [if_neg (by omega)]

@[simp] theorem masked_left_zero (size : Nat) (m : Meaning Numeral) :
    (masked size 0 m).left = none :=
  rfl

/-- A modifier that may be masked keeps all operands that its association allows. -/
theorem masked_of_isModifier {size index : Nat} {m : Meaning Numeral} (h : Maskable size index m)
    (hmod : m.value.isModifier = true) :
    (masked size index m).left = allowedLeft m ∧ (masked size index m).right = allowedRight m := by
  obtain ⟨hl, hr, -⟩ := h hmod
  constructor
  · show (if index = 0 then none else allowedLeft m) = allowedLeft m
    split
    · exact (hl ‹_›).symm
    · rfl
  · show (if index + 1 = size then none else allowedRight m) = allowedRight m
    split
    · exact (hr ‹_›).symm
    · rfl

/-! ## Masking one word -/

@[simp] theorem maskOperands_fragment (w : Word) (value : Numeral) (left right : Option Operand) :
    (maskOperands w value left right).current.fragment = w.current.fragment := by
  unfold maskOperands
  split
  · rfl
  · rfl

theorem maskOperands_value {w : Word} {value : Numeral} (h : w.current.value? = some value)
    (left right : Option Operand) :
    (maskOperands w value left right).current.value? = some (value.withOperands left right) := by
  unfold maskOperands
  split
  · rename_i hsame
    rw [h, hsame.1, hsame.2]
    rfl
  · rfl

/-- Masking a word, with the operands that its association allows. -/
theorem maskWord_of_meaning {size index : Nat} {w : Word} {m : Meaning Numeral}
    (h : w.current.meaning = some m) :
    maskWord size index w =
      if m.value.isModifier then
        if ((allowedLeft m).isSome && index == 0) || ((allowedRight m).isSome && index + 1 == size) then
          .error (.malformed w.current.text .modifierWithoutNeighbour)
        else if (allowedLeft m).isNone && (allowedRight m).isNone then
          .error (.malformed w.current.text .modifierWithoutOperand)
        else .ok (maskOperands w m.value (allowedLeft m) (allowedRight m))
      else .ok (maskOperands w m.value (masked size index m).left (masked size index m).right) := by
  unfold maskWord
  rw [h]
  simp only [masked, Numeral.withOperands, beq_iff_eq]
  rfl

/-- Masking a word succeeds exactly if it has a value that may be masked, and leaves the masked value. -/
theorem maskWord_eq_ok_iff {size index : Nat} {w w' : Word} :
    maskWord size index w = .ok w' ↔
      ∃ m, w.current.meaning = some m ∧ Maskable size index m ∧
        w' = maskOperands w m.value (masked size index m).left (masked size index m).right := by
  cases hm : w.current.meaning with
  | none => simp [maskWord, hm]
  | some m =>
    rw [maskWord_of_meaning hm]
    simp only [Option.some.injEq, exists_eq_left']
    by_cases hmod : m.value.isModifier = true
    · -- The two tests of a modifier in one condition
      have hfree : Maskable size index m ↔
          ¬ ((allowedLeft m).isSome && index == 0 ||
            (allowedRight m).isSome && index + 1 == size) = true ∧
          ¬ ((allowedLeft m).isNone && (allowedRight m).isNone) = true := by
        simp only [Maskable, hmod, forall_const]
        cases allowedLeft m <;> cases allowedRight m <;> simp
      rw [if_pos hmod]
      by_cases h : Maskable size index m
      · obtain ⟨hl, hr⟩ := masked_of_isModifier h hmod
        rw [if_neg (hfree.1 h).1, if_neg (hfree.1 h).2, hl, hr, Except.ok.injEq]
        exact ⟨fun hw => ⟨h, hw.symm⟩, fun hw => hw.2.symm⟩
      · constructor
        · intro hw
          split at hw
          · cases hw
          · split at hw
            · cases hw
            · exact absurd (hfree.2 ⟨‹_›, ‹_›⟩) h
        · intro hw
          exact absurd hw.1 h
    · have hfree : Maskable size index m := fun h => absurd h hmod
      rw [if_neg hmod, Except.ok.injEq]
      exact ⟨fun h => ⟨hfree, h.symm⟩, fun h => h.2.symm⟩

/-- A masked word has the masked value, and its text and positions are as before. -/
theorem maskWord_value {size index : Nat} {w w' : Word} (h : maskWord size index w = .ok w') :
    ∃ m, w.current.meaning = some m ∧ w'.current.value? = some (masked size index m) ∧
      w'.current.fragment = w.current.fragment := by
  obtain ⟨m, hm, -, rfl⟩ := maskWord_eq_ok_iff.1 h
  have hvalue : w.current.value? = some m.value := by
    unfold Valued.value?
    rw [hm]
    rfl
  exact ⟨m, hm, maskOperands_value hvalue _ _, maskOperands_fragment w _ _ _⟩

/-! ## Masking a phrase -/

/-- The words of a phrase have the given values. -/
def Reads (p : Phrase) (ns : List Numeral) : Prop :=
  p.tokens.map (·.current.value?) = ns.map some

theorem Reads.length_eq {p : Phrase} {ns : List Numeral} (h : p.Reads ns) :
    ns.length = p.tokens.length := by
  have hlength := congrArg List.length h
  rw [List.length_map, List.length_map] at hlength
  exact hlength.symm

/-- The values of a phrase are unique. -/
theorem Reads.unique {p : Phrase} {ns ns' : List Numeral} (h : p.Reads ns) (h' : p.Reads ns') : ns = ns' :=
  (List.map_inj_right fun _ _ => Option.some.inj).1 (h.symm.trans h')

/-- Masking a phrase masks its words one by one. -/
theorem mask_eq_ok_iff {p q : Phrase} :
    p.mask = .ok q ↔
      q = { p with tokens := q.tokens } ∧
        List.Forall₂ (fun (wi : Word × Nat) w' => maskWord p.size wi.2 wi.1 = .ok w')
          p.tokens.zipIdx q.tokens := by
  unfold mask
  rw [Sequence.visit_eq, map_eq_ok]
  constructor
  · rintro ⟨ws, hws, rfl⟩
    exact ⟨rfl, mapM_eq_ok.1 hws⟩
  · rintro ⟨hq, hws⟩
    exact ⟨q.tokens, mapM_eq_ok.2 hws, hq.symm⟩

/-- A phrase can be masked exactly if all of its words have meanings that may be masked where they stand. -/
theorem exists_mask_iff {p : Phrase} : (∃ q, p.mask = .ok q) ↔
    ∀ w i, p.tokens[i]? = some w → ∃ m, w.current.meaning = some m ∧ Maskable p.size i m := by
  unfold mask
  simp only [Sequence.visit_eq, map_eq_ok]
  rw [exists_comm]
  simp only [exists_and_left, exists_eq', and_true]
  rw [exists_mapM_eq_ok_iff]
  constructor
  · intro h w i hw
    obtain ⟨w', hw'⟩ := h (w, i) (List.mk_mem_zipIdx_iff_getElem?.2 hw)
    obtain ⟨m, hm, hmaskable, -⟩ := maskWord_eq_ok_iff.1 hw'
    exact ⟨m, hm, hmaskable⟩
  · rintro h ⟨w, i⟩ hwi
    obtain ⟨m, hm, hmaskable⟩ := h w i (List.mk_mem_zipIdx_iff_getElem?.1 hwi)
    exact ⟨_, maskWord_eq_ok_iff.2 ⟨m, hm, hmaskable, rfl⟩⟩

/-- The words of a phrase that can be masked have meanings. -/
theorem exists_meanings_of_mask {p q : Phrase} (h : p.mask = .ok q) :
    ∃ ms : List (Meaning Numeral), p.tokens.map (·.current.meaning) = ms.map some := by
  have hmeanings : ∀ w ∈ p.tokens, ∃ m, w.current.meaning = some m ∧ True := by
    intro w hw
    obtain ⟨i, hi⟩ := List.getElem?_of_mem hw
    obtain ⟨m, hm, -⟩ := exists_mask_iff.1 ⟨q, h⟩ w i hi
    exact ⟨m, hm, trivial⟩
  obtain ⟨ms, hms, -⟩ := exists_map_eq_map_some hmeanings
  exact ⟨ms, hms⟩

/-- The first word of a phrase that can be masked may be masked at the beginning. -/
theorem maskable_of_mask {p q : Phrase} (h : p.mask = .ok q) {m : Meaning Numeral}
    {rest : List (Option (Meaning Numeral))} (hp : p.tokens.map (·.current.meaning) = some m :: rest) :
    Maskable p.size 0 m := by
  obtain ⟨w, ws, hw, hm, -⟩ := List.map_eq_cons_iff.1 hp
  obtain ⟨m', hm', hmaskable⟩ := exists_mask_iff.1 ⟨q, h⟩ w 0 (by rw [hw]; rfl)
  obtain rfl := Option.some.inj (hm'.symm.trans hm)
  exact hmaskable

/-- The words of a masked phrase have the masked values; `start` is the index of the first of them. -/
theorem values_of_maskWord {size : Nat} {ws ws' : List Word} {ms : List (Meaning Numeral)}
    {start : Nat}
    (h : List.Forall₂ (fun (wi : Word × Nat) w' => maskWord size wi.2 wi.1 = .ok w')
      (ws.zipIdx start) ws')
    (hms : ws.map (·.current.meaning) = ms.map some) :
    ws'.map (·.current.value?) = ((ms.zipIdx start).map fun (m, i) => masked size i m).map some := by
  induction ws generalizing ws' ms start with
  | nil =>
    cases h
    rw [List.map_nil, eq_comm, List.map_eq_nil_iff] at hms
    rw [hms]
    rfl
  | cons w ws ih =>
    cases h with
    | cons hw hws =>
      cases ms with
      | nil => cases hms
      | cons m ms =>
        obtain ⟨hm, htail⟩ := List.cons.inj hms
        obtain ⟨m', hm', hvalue, -⟩ := maskWord_value hw
        obtain rfl : m' = m := Option.some.inj (hm'.symm.trans hm)
        rw [List.map_cons, hvalue, ih hws htail]
        rfl

/-- A masked phrase has the masked values of the phrase. -/
theorem reads_of_mask {p q : Phrase} (h : p.mask = .ok q) {ms : List (Meaning Numeral)}
    (hms : p.tokens.map (·.current.meaning) = ms.map some) :
    q.Reads (ms.zipIdx.map fun (m, i) => masked p.size i m) :=
  values_of_maskWord (mask_eq_ok_iff.1 h).2 hms

/-- The words of a masked phrase have values. -/
theorem exists_reads_of_mask {p q : Phrase} (h : p.mask = .ok q) : ∃ ns, q.Reads ns := by
  obtain ⟨ms, hms⟩ := exists_meanings_of_mask h
  exact ⟨_, reads_of_mask h hms⟩

/-- Masking keeps the number of words. -/
theorem size_of_mask {p q : Phrase} (h : p.mask = .ok q) : q.size = p.size := by
  have hlength := (mask_eq_ok_iff.1 h).2.length_eq
  rw [List.length_zipIdx] at hlength
  exact hlength.symm

/-! ## Phrases that cannot be masked -/

/-- Masking a word fails for lack of a meaning, or for a modifier that stands at an end or has no operand. -/
theorem maskWord_error_cases {size index : Nat} {w : Word} {e : Error} (h : maskWord size index w = .error e) :
    (w.current.meaning = none ∧ e = .malformed w.current.text .untranslatedWord) ∨
      ∃ m, w.current.meaning = some m ∧ m.value.isModifier = true ∧
        (e = .malformed w.current.text .modifierWithoutNeighbour ∨
          e = .malformed w.current.text .modifierWithoutOperand) := by
  cases hm : w.current.meaning with
  | none =>
    unfold maskWord at h
    rw [hm] at h
    exact .inl ⟨rfl, (Except.error.inj h).symm⟩
  | some m =>
    rw [maskWord_of_meaning hm] at h
    by_cases hmod : m.value.isModifier = true
    · rw [if_pos hmod] at h
      refine .inr ⟨m, rfl, hmod, ?_⟩
      split at h
      · exact .inl (Except.error.inj h).symm
      · split at h
        · exact .inr (Except.error.inj h).symm
        · cases h
    · rw [if_neg hmod] at h
      cases h

/-- Masking a phrase fails on one of its words. -/
theorem exists_of_mask_eq_error {p : Phrase} {e : Error} (h : p.mask = .error e) :
    ∃ w ∈ p.tokens, ∃ i, maskWord p.size i w = .error e := by
  unfold mask at h
  rw [Sequence.visit_eq, map_eq_error] at h
  obtain ⟨⟨w, i⟩, hwi, he⟩ := exists_of_mapM_eq_error h
  exact ⟨w, List.fst_mem_of_mem_zipIdx hwi, i, he⟩

end TextAnalysis.Phrase
