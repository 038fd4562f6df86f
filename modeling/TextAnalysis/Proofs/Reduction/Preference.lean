/-
# Which pair merges next

The rules by which two neighbours merge, said for the word whose operand is applied and the word that it takes up, and
the order of the pairs that can merge. The pair that merges next is the first of them in this order, and there is none
exactly if no two neighbours can merge by the rules.
-/
import TextAnalysis.Proofs.Reduction.History
import TextAnalysis.Proofs.Cursors.Places

namespace TextAnalysis

/-- The other side. -/
def Side.opposite : Side → Side
  | left => right
  | right => left

/-! ## The rules -/

namespace Numeral

/-- Of two operands that face each other, that of a lone modifier goes first, and otherwise the left operand, which is
that of the right word. -/
def Prevails (owner : Numeral) (side : Side) (neighbour : Numeral) : Prop :=
  if owner.isModifier = neighbour.isModifier then side = .left else owner.isModifier = true

/-- A word takes up its neighbour on a side: its operand on this side is pending, no operand of the neighbour faces it
or it goes first, and the neighbour is no modifier. -/
structure TakesUp (owner : Numeral) (side : Side) (neighbour : Numeral) : Prop where
  pending : side.pending owner ≠ none
  unopposed : side.opposite.pending neighbour = none ∨ owner.Prevails side neighbour
  number : neighbour.isModifier = false

theorem takesUp_left_iff {a b : Numeral} : b.TakesUp .left a ↔ b.left ≠ none ∧ a.isModifier = false := by
  constructor
  · intro h
    exact ⟨h.pending, h.number⟩
  · rintro ⟨hleft, ha⟩
    refine ⟨hleft, .inr ?_, ha⟩
    unfold Prevails
    rw [ha]
    split
    · rfl
    · exact Bool.eq_true_of_not_eq_false ‹_›

theorem takesUp_right_iff {a b : Numeral} :
    a.TakesUp .right b ↔ a.right ≠ none ∧ b.isModifier = false ∧ (b.left = none ∨ a.isModifier = true) := by
  have hprevails (hb : b.isModifier = false) : a.Prevails .right b ↔ a.isModifier = true := by
    unfold Prevails
    rw [hb]
    cases a.isModifier with
    | true => simp
    | false => simp
  constructor
  · intro h
    exact ⟨h.pending, h.number, h.unopposed.imp_right (hprevails h.number).1⟩
  · rintro ⟨hright, hb, hfacing⟩
    exact ⟨hright, hfacing.imp_right (hprevails hb).2, hb⟩

end Numeral

namespace Phrase

/-- Two neighbours merge by the operand of one of them exactly if this one takes up the other. -/
theorem mergeSide_eq_some_iff {a b : Numeral} {side : Side} :
    mergeSide a b = some side ↔ (side.owner a b).TakesUp side (side.consumed a b) := by
  cases side with
  | left => exact mergeSide_eq_left_iff.trans Numeral.takesUp_left_iff.symm
  | right => exact mergeSide_eq_right_iff.trans Numeral.takesUp_right_iff.symm

/-! ## The order -/

namespace Candidate

/-- The order of pairs: by the absolute value of the owner, a left operand before a right one, and from left to right.
-/
def Before (c d : Candidate) : Prop :=
  c.magnitude < d.magnitude ∨ c.magnitude = d.magnitude ∧
    (c.side = .left ∧ d.side = .right ∨ c.side = d.side ∧ c.leftIndex < d.leftIndex)

/-- A candidate is a pair of neighbours in a list of values, of which the owner takes up the other one, with the
absolute value of the owner. -/
def Stands (c : Candidate) (ns : List Numeral) : Prop :=
  ∃ owner neighbour, ns[c.owner]? = some owner ∧ ns[c.consumed]? = some neighbour ∧
    owner.TakesUp c.side neighbour ∧ c.magnitude = owner.value.natAbs

theorem sideRank_lt_iff {c d : Candidate} : c.sideRank < d.sideRank ↔ c.side = .left ∧ d.side = .right := by
  unfold sideRank
  cases c.side <;> cases d.side <;> simp

theorem sideRank_eq_iff {c d : Candidate} : c.sideRank = d.sideRank ↔ c.side = d.side := by
  unfold sideRank
  cases c.side <;> cases d.side <;> simp

theorem precedes_iff_before {c d : Candidate} : c.precedes d = true ↔ c.Before d := by
  rw [precedes_iff, sideRank_lt_iff, sideRank_eq_iff]
  rfl

/-- Of two different pairs one goes before the other. -/
theorem eq_or_before_of_not_precedes {c d : Candidate} (h : ¬ d.precedes c = true) : d = c ∨ c.Before d := by
  by_cases hbefore : c.Before d
  · exact .inr hbefore
  · left
    rw [← precedes_iff_before, precedes_iff] at hbefore
    rw [precedes_iff] at h
    -- Neither goes before the other, so they agree in all three respects.
    have hmagnitude : d.magnitude = c.magnitude := by omega
    have hside : d.side = c.side := sideRank_eq_iff.1 (by omega)
    have hindex : d.leftIndex = c.leftIndex := by omega
    cases c
    cases d
    rw [Candidate.mk.injEq]
    exact ⟨hmagnitude, hside, hindex⟩

/-- The owner and the word that it takes up are the two words of the pair. -/
theorem owner_consumed (c : Candidate) :
    c.owner = c.leftIndex ∧ c.consumed = c.leftIndex + 1 ∨ c.owner = c.leftIndex + 1 ∧ c.consumed = c.leftIndex := by
  unfold owner consumed
  cases c.side with
  | left => exact .inr ⟨rfl, rfl⟩
  | right => exact .inl ⟨rfl, rfl⟩

end Candidate

/-! ## Candidates of a list of values -/

/-- Two neighbours of a list stand between what is before and what is behind them. -/
theorem exists_neighbours_iff {ns : List Numeral} {index : Nat} {a b : Numeral} :
    (ns[index]? = some a ∧ ns[index + 1]? = some b) ↔ ∃ l r, ns = l ++ a :: b :: r ∧ l.length = index := by
  constructor
  · rintro ⟨ha, hb⟩
    obtain ⟨l, between, r, rfl, hl, hbetween⟩ := Places.exists_split_split (Nat.lt_succ_self index) ha hb
    obtain rfl : between = [] := List.eq_nil_of_length_eq_zero (by omega)
    exact ⟨l, r, rfl, hl⟩
  · rintro ⟨l, r, rfl, rfl⟩
    refine ⟨Places.getElem?_split .., ?_⟩
    rw [List.append_cons]
    have hlength : (l ++ [a]).length = l.length + 1 := List.length_append
    rw [← hlength]
    exact Places.getElem?_split ..

/-- The owner and the word that it takes up, at their indices, are two neighbours. -/
theorem getElem?_owner_consumed (ns : List Numeral) (c : Candidate) {a b : Numeral} :
    (ns[c.owner]? = some (c.side.owner a b) ∧ ns[c.consumed]? = some (c.side.consumed a b)) ↔
      ∃ l r, ns = l ++ a :: b :: r ∧ l.length = c.leftIndex := by
  rw [← exists_neighbours_iff]
  obtain ⟨magnitude, side, index⟩ := c
  cases side with
  | left => exact And.comm
  | right => exact Iff.rfl

/-- The candidates of a list of values are the pairs of neighbours that merge by the rules. -/
theorem mem_candidatesFrom_zero_iff {c : Candidate} {ns : List Numeral} :
    c ∈ candidatesFrom 0 ns ↔ c.Stands ns := by
  rw [mem_candidatesFrom]
  constructor
  · rintro ⟨l, a, b, r, hns, hpair⟩
    obtain ⟨side, hside, rfl⟩ := Option.map_eq_some_iff.1 hpair
    obtain ⟨howner, hconsumed⟩ := (getElem?_owner_consumed ns
      ⟨(side.owner a b).value.natAbs, side, 0 + l.length⟩).2 ⟨l, r, hns, (Nat.zero_add _).symm⟩
    exact ⟨_, _, howner, hconsumed, mergeSide_eq_some_iff.1 hside, rfl⟩
  · rintro ⟨owner, neighbour, howner, hneighbour, htakes, hmagnitude⟩
    -- The owner and its neighbour in the order in which they stand
    obtain ⟨a, b, rfl, rfl⟩ : ∃ a b, c.side.owner a b = owner ∧ c.side.consumed a b = neighbour := by
      cases c.side with
      | left => exact ⟨neighbour, owner, rfl, rfl⟩
      | right => exact ⟨owner, neighbour, rfl, rfl⟩
    obtain ⟨l, r, hns, hindex⟩ := (getElem?_owner_consumed ns c).1 ⟨howner, hneighbour⟩
    refine ⟨l, a, b, r, hns, ?_⟩
    unfold pairing
    rw [mergeSide_eq_some_iff.2 htakes, Nat.zero_add, hindex, Option.map_some, ← hmagnitude]

/-- The first of some candidates is the one that goes before all others. -/
theorem foldl_earlier_eq_some_iff {cs : List Candidate} {c : Candidate} :
    cs.foldl Candidate.earlier none = some c ↔ c ∈ cs ∧ ∀ d ∈ cs, d = c ∨ c.Before d := by
  constructor
  · intro h
    obtain ⟨hmem, hfirst⟩ := Candidate.foldl_earlier_none h
    exact ⟨hmem, fun d hd => Candidate.eq_or_before_of_not_precedes (hfirst d hd)⟩
  · rintro ⟨hmem, hfirst⟩
    obtain ⟨b, rest, rfl⟩ := List.exists_cons_of_ne_nil (List.ne_nil_of_mem hmem)
    obtain ⟨d, hd⟩ := Candidate.exists_foldl_earlier b rest
    have hd : (b :: rest).foldl Candidate.earlier none = some d := hd
    obtain ⟨hdmem, hdfirst⟩ := Candidate.foldl_earlier_none hd
    rcases hfirst d hdmem with rfl | hbefore
    · exact hd
    · exact absurd (Candidate.precedes_iff_before.2 hbefore) (hdfirst c hmem)

/-! ## The pair that merges next -/

section

variable {p : Phrase} {ns : List Numeral} (h : p.Reads ns)

include h

theorem nextCandidate_eq_some_iff {c : Candidate} :
    p.nextCandidate = .ok (some c) ↔ c.Stands ns ∧ ∀ d : Candidate, d.Stands ns → d = c ∨ c.Before d := by
  rw [nextCandidate_eq h, Except.ok.injEq, foldl_earlier_eq_some_iff]
  simp only [mem_candidatesFrom_zero_iff]

/-- No pair merges next exactly if of no two neighbours one takes up the other. -/
theorem nextCandidate_eq_none_iff_takesUp :
    p.nextCandidate = .ok none ↔
      ∀ index a b, ns[index]? = some a → ns[index + 1]? = some b → ¬ a.TakesUp .right b ∧ ¬ b.TakesUp .left a := by
  have hside (a b : Numeral) : mergeSide a b = none ↔ ¬ a.TakesUp .right b ∧ ¬ b.TakesUp .left a := by
    rw [Option.eq_none_iff_forall_ne_some]
    constructor
    · intro hnone
      exact ⟨fun ha => hnone .right (mergeSide_eq_some_iff.2 ha), fun hb => hnone .left (mergeSide_eq_some_iff.2 hb)⟩
    · rintro ⟨ha, hb⟩ side hside
      cases side with
      | left => exact hb (mergeSide_eq_some_iff.1 hside)
      | right => exact ha (mergeSide_eq_some_iff.1 hside)
  rw [nextCandidate_eq_none_iff h]
  constructor
  · intro hnone index a b ha hb
    obtain ⟨l, r, hns, -⟩ := exists_neighbours_iff.1 ⟨ha, hb⟩
    exact (hside a b).1 (hnone l a b r hns)
  · intro hnone l a b r hns
    obtain ⟨ha, hb⟩ := exists_neighbours_iff.2 ⟨l, r, hns, rfl⟩
    exact (hside a b).2 (hnone l.length a b ha hb)

/-- Merging a pair applies the operand of the owner to its value and that of the other word. -/
theorem exists_merge_of_stands {c : Candidate} (hc : c.Stands ns) :
    ∃ owner neighbour o, ns[c.owner]? = some owner ∧ ns[c.consumed]? = some neighbour ∧
      neighbour.isModifier = false ∧ c.side.pending owner = some o ∧
      ∃ join : Int → Phrase, p.merge c = (o.apply owner.value neighbour.value).map join ∧
        ∀ x, ((join x).tokens[c.leftIndex]?.bind (·.current.value?)).map (·.value) = some x := by
  obtain ⟨nl, a, b, nr, rfl, hpair⟩ := mem_candidatesFrom.1 (mem_candidatesFrom_zero_iff.2 hc)
  obtain ⟨side, hside, rfl⟩ := Option.map_eq_some_iff.1 hpair
  obtain ⟨l, u, v, r, hp, hlength, -, -, hu, hv⟩ := exists_words_of_values h
  obtain ⟨o, ho⟩ := exists_operand_of_mergeSide hside
  have hindices := (getElem?_owner_consumed (nl ++ a :: b :: nr)
    ⟨(side.owner a b).value.natAbs, side, 0 + nl.length⟩).2 ⟨nl, nr, rfl, (Nat.zero_add _).symm⟩
  refine ⟨side.owner a b, side.consumed a b, o, hindices.1, hindices.2, consumed_not_isModifier hside, ?_, ?_⟩
  · rw [← side.operand_eq_pending]
    exact ho
  · rw [Nat.zero_add, ← hlength]
    refine ⟨_, merge_eq _ hp hu hv ho, fun x => ?_⟩
    dsimp only
    rw [Places.getElem?_split]
    rfl

end

/-- **The pair that merges next.** Whatever the values of the words of a phrase are, there is no next pair exactly if of
no two neighbours one takes up the other by the rules. Otherwise it is the pair that goes before all others that can
merge: that with the least absolute value of the owner, of these one with a left operand, and of these the leftmost. The
operand of the owner is the one that is applied when the pair merges, the other word of the pair is the one that is
taken up, and this is never a modifier. -/
theorem nextCandidate_preferred {p : Phrase} {ns : List Numeral} (h : p.Reads ns) :
    (∃ found, p.nextCandidate = .ok found) ∧
    (p.nextCandidate = .ok none ↔
      ∀ index a b, ns[index]? = some a → ns[index + 1]? = some b → ¬ a.TakesUp .right b ∧ ¬ b.TakesUp .left a) ∧
    (∀ c, p.nextCandidate = .ok (some c) ↔ c.Stands ns ∧ ∀ d : Candidate, d.Stands ns → d = c ∨ c.Before d) ∧
    ∀ c, p.nextCandidate = .ok (some c) →
      (c.owner = c.leftIndex ∧ c.consumed = c.leftIndex + 1 ∨ c.owner = c.leftIndex + 1 ∧ c.consumed = c.leftIndex) ∧
      ∃ owner neighbour o, ns[c.owner]? = some owner ∧ ns[c.consumed]? = some neighbour ∧
        neighbour.isModifier = false ∧ c.side.pending owner = some o ∧
        ∃ join : Int → Phrase, p.merge c = (o.apply owner.value neighbour.value).map join ∧
          ∀ x, ((join x).tokens[c.leftIndex]?.bind (·.current.value?)).map (·.value) = some x := by
  refine ⟨⟨_, nextCandidate_eq h⟩, nextCandidate_eq_none_iff_takesUp h, fun c => nextCandidate_eq_some_iff h,
    fun c hc => ⟨c.owner_consumed, ?_⟩⟩
  exact exists_merge_of_stands h ((nextCandidate_eq_some_iff h).1 hc).1

/-- Five values of which every two neighbours can merge. The owner of the first pair has the most negative value; the
owners of the others have the absolute value seven, with a left operand, a right one, and a left one again. -/
def sevens : List Numeral :=
  let addend : Operand := ⟨.add, -9, 9⟩
  [{ value := -9223372036854775808, right := some addend }, { value := 5, right := some addend },
    { value := -7, left := some addend, right := some addend }, .number 3, { value := 7, left := some addend }]

/-- The first of the two pairs with a left operand goes next, although an operand faces it. -/
theorem nextCandidate_preferred_sevens :
    let p : Phrase := .ofList (sevens.zipIdx.map fun (n, index) => lettered 'n' (2 * index) n)
    p.Reads sevens ∧ p.nextCandidate = .ok (some ⟨7, .left, 1⟩) ∧ Candidate.Stands ⟨7, .left, 1⟩ sevens ∧
      ∀ d : Candidate, d.Stands sevens → d = ⟨7, .left, 1⟩ ∨ Candidate.Before ⟨7, .left, 1⟩ d := by
  intro p
  have hreads : p.Reads sevens := rfl
  have hnext : p.nextCandidate = .ok (some ⟨7, .left, 1⟩) := rfl
  exact ⟨hreads, hnext, ((nextCandidate_preferred hreads).2.2.1 _).1 hnext⟩

end Phrase

end TextAnalysis
