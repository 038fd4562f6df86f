/-
# Meanings decide

What a phrase reduces to depends on the meanings of its words alone, not on their texts, positions or earlier
versions. The same holds of the reason for which it does not reduce, which is always that of a malformed text.
-/
import TextAnalysis.Proofs.Agreement
import TextAnalysis.Proofs.Reduction.Ends

namespace TextAnalysis.Phrase

/-! ## Masking -/

/-- Two words have the same value. -/
def SameValue (u v : Word) : Prop :=
  ∃ n, u.current.value? = some n ∧ v.current.value? = some n

/-- The words of two phrases have the same values. -/
def SameValues (p q : Phrase) : Prop :=
  ∃ ns, p.Reads ns ∧ q.Reads ns

/-- Words with the same meaning are masked alike. -/
theorem agree_maskWord {size index : Nat} {u v : Word} (h : u.current.meaning = v.current.meaning) :
    Agree SameValue (maskWord size index u) (maskWord size index v) := by
  cases hv : v.current.meaning with
  | none =>
    rw [hv] at h
    unfold maskWord
    rw [h, hv]
    exact .malformed _ _ _
  | some m =>
    rw [hv] at h
    have hmasked : ∀ left right,
        SameValue (maskOperands u m.value left right) (maskOperands v m.value left right) := by
      intro left right
      refine ⟨m.value.withOperands left right, maskOperands_value ?_ left right, maskOperands_value ?_ left right⟩
      · rw [Valued.value?, h]
        rfl
      · rw [Valued.value?, hv]
        rfl
    rw [maskWord_of_meaning h, maskWord_of_meaning hv]
    split
    · split
      · exact .malformed _ _ _
      · split
        · exact .malformed _ _ _
        · exact .ok (hmasked _ _)
    · exact .ok (hmasked _ _)

/-- Words with the same values, one by one. -/
theorem exists_values_of_forall₂ {ws ws' : List Word} (h : List.Forall₂ SameValue ws ws') :
    ∃ ns : List Numeral, ws.map (·.current.value?) = ns.map some ∧
      ws'.map (·.current.value?) = ns.map some := by
  induction h with
  | nil => exact ⟨[], rfl, rfl⟩
  | cons huv _ ih =>
    obtain ⟨n, hu, hv⟩ := huv
    obtain ⟨ns, hns, hns'⟩ := ih
    refine ⟨n :: ns, ?_, ?_⟩
    · rw [List.map_cons, hu, hns, List.map_cons]
    · rw [List.map_cons, hv, hns', List.map_cons]

/-- Phrases with the same meanings are masked alike. -/
theorem agree_mask {p q : Phrase}
    (h : p.tokens.map (·.current.meaning) = q.tokens.map (·.current.meaning)) :
    Agree SameValues p.mask q.mask := by
  have hsize : p.size = q.size := by
    have hlength := congrArg List.length h
    rwa [List.length_map, List.length_map] at hlength
  -- What a word is masked to depends on its meaning and its index.
  have hmeanings : ∀ ws : List Word, ws.zipIdx.map (fun u => (u.1.current.meaning, u.2)) =
      (ws.map (·.current.meaning)).zipIdx := by
    intro ws
    rw [List.zipIdx_map]
    rfl
  have hwords : List.Forall₂ (fun u v : Word × Nat => (u.1.current.meaning, u.2) = (v.1.current.meaning, v.2))
      p.tokens.zipIdx q.tokens.zipIdx := by
    refine forall₂_of_map_eq ?_
    rw [hmeanings, hmeanings, h]
  have hmasked : Agree (List.Forall₂ SameValue) (p.tokens.zipIdx.mapM fun (w, i) => maskWord q.size i w)
      (q.tokens.zipIdx.mapM fun (w, i) => maskWord q.size i w) := by
    refine Agree.mapM hwords ?_
    rintro ⟨u, i⟩ ⟨v, j⟩ huv
    obtain ⟨hmeaning, rfl⟩ := Prod.mk.inj huv
    exact agree_maskWord hmeaning
  unfold mask
  rw [Sequence.visit_eq, Sequence.visit_eq, hsize]
  exact hmasked.map fun ws ws' => exists_values_of_forall₂

/-! ## Merging -/

/-- What an operand makes of two values is a number or a malformed text. -/
theorem agree_apply (o : Operand) (x y : Int) : Agree Eq (o.apply x y) (o.apply x y) := by
  unfold Operand.apply
  dsimp only
  split
  · exact .malformed _ _ _
  · split
    · exact .malformed _ _ _
    · exact .ok rfl

/-- Phrases with the same values merge alike. -/
theorem agree_reduceWithin (rounds : Nat) {p q : Phrase} (h : p.SameValues q) :
    Agree SameValues (reduceWithin rounds p) (reduceWithin rounds q) := by
  induction rounds generalizing p q with
  | zero => exact .malformed _ _ _
  | succ rounds ih =>
    obtain ⟨ns, hp, hq⟩ := h
    -- The pair that merges next depends on the values only, so it is the same pair in both.
    have hsame : q.nextCandidate = p.nextCandidate := by rw [nextCandidate_eq hp, nextCandidate_eq hq]
    obtain ⟨found, hfound⟩ : ∃ found, p.nextCandidate = .ok found := ⟨_, nextCandidate_eq hp⟩
    unfold reduceWithin
    rw [hsame, hfound, ok_bind, ok_bind]
    cases found with
    | none => exact .ok ⟨ns, hp, hq⟩
    | some c =>
      obtain ⟨nl, a, b, nr, side, rfl, hside, rfl, -⟩ := exists_of_nextCandidate hp hfound
      obtain ⟨l, u, v, r, htokens, hlength, hl, hr, hu, hv⟩ := exists_words_of_values hp
      obtain ⟨l', u', v', r', htokens', hlength', hl', hr', hu', hv'⟩ := exists_words_of_values hq
      obtain ⟨o, ho⟩ := exists_operand_of_mergeSide hside
      have hmerge := merge_eq (side.owner a b).value.natAbs htokens hu hv ho
      have hmerge' := merge_eq (side.owner a b).value.natAbs htokens' hu' hv' ho
      rw [hlength] at hmerge
      rw [hlength'] at hmerge'
      show Agree _ (p.merge _ >>= reduceWithin rounds) (q.merge _ >>= reduceWithin rounds)
      rw [hmerge, hmerge']
      refine ((agree_apply o _ _).map ?_).bind fun p' q' => ih
      rintro x _ rfl
      exact ⟨_, reads_joined hl hr, reads_joined hl' hr'⟩

/-- Phrases with the same meanings reduce alike. -/
theorem agree_reduce {p q : Phrase}
    (h : p.tokens.map (·.current.meaning) = q.tokens.map (·.current.meaning)) :
    Agree SameValues p.reduce q.reduce := by
  refine (agree_mask h).bind ?_
  intro p' q' hsame
  obtain ⟨ns, hp, hq⟩ := hsame
  have hsize : p'.size = q'.size := hp.length_eq.symm.trans hq.length_eq
  rw [hsize]
  exact agree_reduceWithin _ ⟨ns, hp, hq⟩

/-! ## Extracting -/

/-- The same number is extracted from phrases with the same values, or none for the same reason. -/
theorem agree_extract {p q : Phrase} (h : p.SameValues q) : Agree Eq p.extract q.extract := by
  obtain ⟨ns, hp, hq⟩ := h
  have hsize : p.size = q.size := hp.length_eq.symm.trans hq.length_eq
  unfold Reads at hp hq
  unfold extract
  rw [hsize]
  cases ns with
  | nil =>
    rw [List.map_nil, List.map_eq_nil_iff] at hp hq
    rw [hp, hq]
    exact .malformed _ _ _
  | cons n ns =>
    rw [List.map_cons, List.map_eq_cons_iff] at hp hq
    obtain ⟨u, us, hp, hu, hus⟩ := hp
    obtain ⟨v, vs, hq, hv, hvs⟩ := hq
    rw [hp, hq]
    cases ns with
    | nil =>
      rw [List.map_nil, List.map_eq_nil_iff] at hus hvs
      rw [hus, hvs]
      dsimp only
      rw [hu, hv]
      dsimp only
      split
      · exact .ok rfl
      · split
        · exact .malformed _ _ _
        · exact .malformed _ _ _
    | cons n' ns =>
      rw [List.map_cons, List.map_eq_cons_iff] at hus hvs
      obtain ⟨u', us', rfl, -, -⟩ := hus
      obtain ⟨v', vs', rfl, -, -⟩ := hvs
      exact .malformed _ _ _

/-- A number that a phrase reduces to is what every phrase with the same meanings reduces to. -/
theorem exists_reduce_of_meanings {p p' t : Phrase} {x : Int} (h : p.reduce = .ok t) (hx : t.extract = .ok x)
    (hmeanings : p'.tokens.map (·.current.meaning) = p.tokens.map (·.current.meaning)) :
    ∃ t', p'.reduce = .ok t' ∧ t'.extract = .ok x := by
  have hreduce := agree_reduce hmeanings
  rw [h] at hreduce
  obtain ⟨t', ht', hsame⟩ := hreduce.exists_left
  have hextract := agree_extract hsame
  rw [hx] at hextract
  obtain ⟨y, hy, rfl⟩ := hextract.exists_left
  exact ⟨t', ht', hy⟩

end TextAnalysis.Phrase
