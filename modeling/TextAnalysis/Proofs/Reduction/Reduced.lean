/-
# Reduced phrases

A reduced phrase reduces to itself. The association of each of its words allows the operands that the word still has,
no operand faces an end, and every modifier has kept one. So there is nothing left to mask, wherever the words stand
by now, and no pair is left to merge.
-/
import TextAnalysis.Proofs.Reduction.Facing

namespace TextAnalysis.Phrase

/-! ## Words that have nothing to lose -/

/-- The association of a word allows all operands that its value has. -/
def Settled (w : Word) : Prop :=
  ∃ m, w.current.meaning = some m ∧ allowedLeft m = m.value.left ∧ allowedRight m = m.value.right

/-- The association that a value implies allows all of its operands. -/
theorem allowed_impliedAssociation (n : Numeral) :
    allowedLeft ⟨n, n.impliedAssociation⟩ = n.left ∧ allowedRight ⟨n, n.impliedAssociation⟩ = n.right := by
  obtain ⟨kind, value, left, right⟩ := n
  cases left with
  | none =>
    cases right with
    | none => exact ⟨rfl, rfl⟩
    | some o => exact ⟨rfl, rfl⟩
  | some o =>
    cases right with
    | none => exact ⟨rfl, rfl⟩
    | some o' => exact ⟨rfl, rfl⟩

/-- If masking leaves the left operand, then the association allows it. -/
theorem allowedLeft_of_masked {size index : Nat} {m : Meaning Numeral}
    (h : (masked size index m).left = m.value.left) : allowedLeft m = m.value.left := by
  by_cases hindex : index = 0
  · have hnone : m.value.left = none := by
      rw [← h, hindex, masked_left_zero]
    unfold allowedLeft
    rw [hnone, ite_self]
  · rw [← h, masked_left_of_pos (Nat.pos_of_ne_zero hindex)]

/-- If masking leaves the right operand, then the association allows it. -/
theorem allowedRight_of_masked {size index : Nat} {m : Meaning Numeral}
    (h : (masked size index m).right = m.value.right) : allowedRight m = m.value.right := by
  by_cases hindex : index + 1 = size
  · have hnone : m.value.right = none := by
      rw [← h]
      exact if_pos hindex
    unfold allowedRight
    rw [hnone, ite_self]
  · rw [← h]
    exact (if_neg hindex).symm

/-- A masked word is settled: it is as it was, or it has the association that its operands imply. -/
theorem settled_of_maskWord {size index : Nat} {w w' : Word} (h : maskWord size index w = .ok w') : Settled w' := by
  obtain ⟨m, hm, -, rfl⟩ := maskWord_eq_ok_iff.1 h
  unfold maskOperands
  split
  · rename_i hsame
    exact ⟨m, hm, allowedLeft_of_masked hsame.1, allowedRight_of_masked hsame.2⟩
  · exact ⟨_, rfl, allowed_impliedAssociation _⟩

/-- The word that two neighbours make is settled. -/
theorem settled_joinedWord (side : Side) (u v : Word) (n : Numeral) : Settled (joinedWord side u v n) :=
  ⟨_, rfl, allowed_impliedAssociation n⟩

/-- A merge leaves settled words. -/
theorem Merges.settled {p q : Phrase} (h : Merges p q) {ns : List Numeral} (hns : p.Reads ns)
    (hp : ∀ w ∈ p.tokens, Settled w) : ∀ w ∈ q.tokens, Settled w := by
  obtain ⟨l, u, v, r, _, a, b, _, side, _, x, htokens, -, -, -, -, -, -, -, -, -, rfl⟩ := exists_of_merges h hns
  intro w hw
  rcases List.mem_append.1 hw with hw | hw
  · exact hp w (by simp [htokens, hw])
  · rcases List.mem_cons.1 hw with rfl | hw
    · exact settled_joinedWord side u v (joinedValue a b x)
    · exact hp w (by simp [htokens, hw])

/-- What a reduction leaves: settled words whose values have no operand that faces an end, with an operand for every
modifier, and of which no pair can merge. -/
theorem exists_settled_of_reduce {s t : Phrase} (h : s.reduce = .ok t) :
    (∀ w ∈ t.tokens, Settled w) ∧ (∃ ns, t.Reads ns ∧ Masked ns) ∧ t.nextCandidate = .ok none := by
  obtain ⟨m, hmask, hmerges, hend⟩ := merges_of_reduce h
  obtain ⟨ns, hns, hmasked⟩ := masked_of_mask hmask
  have hvalues : ∃ nt, t.Reads nt ∧ Masked nt :=
    exists_values_of_merges (fun _ _ hkept hjoins => hjoins.masked hkept) hmerges hns hmasked
  refine ⟨?_, hvalues, hend⟩
  -- Masking settles every word, and a merge keeps that; it is known to join two words only if they have values.
  have hboth : (∃ nt, t.Reads nt) ∧ ∀ w ∈ t.tokens, Settled w := by
    clear h hend hvalues
    induction hmerges with
    | refl =>
      refine ⟨⟨ns, hns⟩, fun w hw => ?_⟩
      obtain ⟨k, hk, rfl⟩ := List.mem_iff_getElem.1 hw
      have hwords := (mask_eq_ok_iff.1 hmask).2
      exact settled_of_maskWord (hwords.get (hwords.length_eq ▸ hk) hk)
    | tail _ hmerges ih =>
      obtain ⟨⟨np, hnp⟩, hsettled⟩ := ih
      obtain ⟨nq, -, hnq⟩ := exists_joins_of_merges hmerges hnp
      exact ⟨⟨nq, hnq⟩, hmerges.settled hnp hsettled⟩
  exact hboth.2

/-! ## Masking once more -/

/-- A settled word whose operands face no end has nothing masked. -/
theorem masked_eq_of_settled {size index : Nat} {m : Meaning Numeral} (hleft : allowedLeft m = m.value.left)
    (hright : allowedRight m = m.value.right) (hfirst : index = 0 → m.value.left = none)
    (hlast : index + 1 = size → m.value.right = none) : masked size index m = m.value := by
  have hl : (if index = 0 then none else allowedLeft m) = m.value.left := by
    split
    · exact (hfirst ‹_›).symm
    · exact hleft
  have hr : (if index + 1 = size then none else allowedRight m) = m.value.right := by
    split
    · exact (hlast ‹_›).symm
    · exact hright
  unfold masked
  rw [hl, hr]
  rfl

/-- Masking keeps a word of which it masks nothing, unless it is a modifier without an operand. -/
theorem maskWord_of_masked {size index : Nat} {w : Word} {m : Meaning Numeral} (hm : w.current.meaning = some m)
    (hleft : allowedLeft m = m.value.left) (hright : allowedRight m = m.value.right)
    (hmasked : masked size index m = m.value)
    (hpending : m.value.isModifier = true → m.value.left ≠ none ∨ m.value.right ≠ none) :
    maskWord size index w = .ok w := by
  refine maskWord_eq_ok_iff.2 ⟨m, hm, ?_, ?_⟩
  · intro hmod
    rw [hleft, hright, ← hmasked]
    refine ⟨?_, fun hindex => if_pos hindex, ?_⟩
    · rintro rfl
      exact masked_left_zero size m
    · rw [hmasked]
      exact hpending hmod
  · rw [hmasked]
    exact (if_pos ⟨rfl, rfl⟩).symm

/-- A value at an index of a list whose ends are free has no operand that faces an end. -/
theorem EndsFree.at_index {ns : List Numeral} (h : EndsFree ns) {index : Nat} {n : Numeral}
    (hn : ns[index]? = some n) :
    (index = 0 → n.left = none) ∧ (index + 1 = ns.length → n.right = none) := by
  constructor
  · rintro rfl
    exact h.first n (by rw [List.head?_eq_getElem?, hn]; rfl)
  · intro hlast
    refine h.last n ?_
    rw [List.getLast?_eq_getElem?, ← hlast, Nat.add_sub_cancel, hn]
    rfl

/-- Nothing is masked of the words of a reduced phrase. -/
theorem masked_of_reduce {s t : Phrase} (h : s.reduce = .ok t) {i : Nat} {w : Word} (hw : t.tokens[i]? = some w) :
    ∃ m, w.current.meaning = some m ∧ masked t.size i m = m.value ∧ maskWord t.size i w = .ok w := by
  obtain ⟨hsettled, ⟨ns, hns, hmasked⟩, -⟩ := exists_settled_of_reduce h
  obtain ⟨m, hm, hleft, hright⟩ := hsettled w (List.mem_of_getElem? hw)
  have hvalue : ns[i]? = some m.value := by
    have hat := congrArg (·[i]?) hns
    simp only [List.getElem?_map, hw, Option.map_some] at hat
    obtain ⟨n, hn, hcurrent⟩ := Option.map_eq_some_iff.1 hat.symm
    have hcurrent' : w.current.value? = some m.value := by
      unfold Valued.value?
      rw [hm]
      rfl
    rw [hn, Option.some.inj (hcurrent.trans hcurrent')]
  -- No operand of what is left points out of the phrase, so there is none to mask.
  obtain ⟨hfirst, hlast⟩ := hmasked.ends.at_index hvalue
  rw [hns.length_eq] at hlast
  have hsame : masked t.size i m = m.value := masked_eq_of_settled hleft hright hfirst hlast
  refine ⟨m, hm, hsame, ?_⟩
  exact maskWord_of_masked hm hleft hright hsame (hmasked.pending _ (List.mem_of_getElem? hvalue))

/-- A reduced phrase is masked already. -/
theorem mask_of_reduce {s t : Phrase} (h : s.reduce = .ok t) : t.mask = .ok t := by
  refine mask_eq_ok_iff.2 ⟨rfl, ?_⟩
  rw [List.forall₂_iff_get]
  refine ⟨List.length_zipIdx, fun i hi hi' => ?_⟩
  obtain ⟨-, -, -, hword⟩ := masked_of_reduce h (List.getElem?_eq_getElem hi')
  simpa using hword

/-! ## Reducing once more -/

/-- **Reducing a reduced phrase changes nothing.** What comes out is the same phrase with its words in all their
versions and with the same count of edits. Nothing is masked of any word, so no version is put aside, and no pair can
merge. -/
theorem reduce_idempotent {s t : Phrase} (h : s.reduce = .ok t) :
    t.reduce = .ok t ∧ t.mask = .ok t ∧ t.nextCandidate = .ok none ∧
      ∀ (i : Nat) w, t.tokens[i]? = some w →
        ∃ m, w.current.meaning = some m ∧ masked t.size i m = m.value := by
  have hmask : t.mask = .ok t := mask_of_reduce h
  have hend : t.nextCandidate = .ok none := (exists_settled_of_reduce h).2.2
  refine ⟨?_, hmask, hend, fun i w hw => ?_⟩
  · unfold reduce
    rw [hmask, ok_bind, reduceWithin, hend]
    rfl
  · obtain ⟨m, hm, hmasked, -⟩ := masked_of_reduce h hw
    exact ⟨m, hm, hmasked⟩

/-- Four words are left of twenty, one, two modifiers that face each other and seven: the merged word and both
modifiers stand at other places than before. -/
theorem reduce_idempotent_twentyOneFacingSeven :
    ∃ t, twentyOneFacingSeven.reduce = .ok t ∧ t.size = 4 ∧ t.edits = 1 ∧
      t.reduce = .ok t ∧ t.mask = .ok t ∧ t.nextCandidate = .ok none ∧
        ∀ (i : Nat) w, t.tokens[i]? = some w →
          ∃ m, w.current.meaning = some m ∧ masked t.size i m = m.value := by
  obtain ⟨t, ht, hsize, hedits⟩ : ∃ t, twentyOneFacingSeven.reduce = .ok t ∧ t.size = 4 ∧ t.edits = 1 :=
    ⟨_, rfl, rfl, rfl⟩
  exact ⟨t, ht, hsize, hedits, reduce_idempotent ht⟩

end TextAnalysis.Phrase
