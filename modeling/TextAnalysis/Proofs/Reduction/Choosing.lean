/-
# The pair that merges next

Which pairs of neighbours can merge depends on the values of a phrase alone. The one that is chosen is the first
of them in the order by the owner's absolute value, the side of the operand, and the index.
-/
import TextAnalysis.Proofs.Reduction.Masking

namespace TextAnalysis

namespace Side

variable {α : Type}

/-- Of two neighbours the one on whose given side the operand stands. -/
def owner : Side → α → α → α
  | left, _, b => b
  | right, a, _ => a

/-- Of two neighbours the one that is taken up. -/
def consumed : Side → α → α → α
  | left, a, _ => a
  | right, _, b => b

/-- The operand by which two neighbours merge. -/
def operand : Side → Numeral → Numeral → Option Operand
  | left, _, b => b.left
  | right, a, _ => a.right

end Side

namespace Phrase

/-! ## Sides -/

/-- Two neighbours merge by the left operand of the right one if it has one and the left one is a number. -/
theorem mergeSide_eq_left_iff {a b : Numeral} :
    mergeSide a b = some .left ↔ b.left ≠ none ∧ a.isModifier = false := by
  unfold mergeSide
  cases a.right <;> cases b.left <;> cases a.isModifier <;> cases b.isModifier <;> simp

/-- Two neighbours merge by the right operand of the left one if it has one, the right one is a number, and no
left operand faces it or that of a number faces a modifier. -/
theorem mergeSide_eq_right_iff {a b : Numeral} :
    mergeSide a b = some .right ↔
      a.right ≠ none ∧ b.isModifier = false ∧ (b.left = none ∨ a.isModifier = true) := by
  unfold mergeSide
  cases a.right <;> cases b.left <;> cases a.isModifier <;> cases b.isModifier <;> simp

/-- Two neighbours that can merge have an operand to do so. -/
theorem exists_operand_of_mergeSide {a b : Numeral} {side : Side} (h : mergeSide a b = some side) :
    ∃ o, side.operand a b = some o := by
  cases side with
  | left => exact Option.ne_none_iff_exists'.1 (mergeSide_eq_left_iff.1 h).1
  | right => exact Option.ne_none_iff_exists'.1 (mergeSide_eq_right_iff.1 h).1

/-- A modifier is never taken up. -/
theorem consumed_not_isModifier {a b : Numeral} {side : Side} (h : mergeSide a b = some side) :
    (side.consumed a b).isModifier = false := by
  cases side with
  | left => exact (mergeSide_eq_left_iff.1 h).2
  | right => exact (mergeSide_eq_right_iff.1 h).2.1

/-- Two numbers can merge unless there is no operand between them. -/
theorem mergeSide_eq_none_iff {a b : Numeral} (ha : a.isModifier = false)
    (hb : b.isModifier = false) :
    mergeSide a b = none ↔ a.right = none ∧ b.left = none := by
  unfold mergeSide
  cases a.right <;> cases b.left <;> simp [ha, hb]

/-! ## Candidates -/

/-- The candidate of two neighbouring values, the left one with a given index. -/
def pairing (index : Nat) (a b : Numeral) : Option Candidate :=
  (mergeSide a b).map fun side =>
    { magnitude := (side.owner a b).value.natAbs, side, leftIndex := index }

/-- The candidates of a list of values, the first with a given index. -/
def candidatesFrom (index : Nat) : List Numeral → List Candidate
  | a :: b :: rest => (pairing index a b).toList ++ candidatesFrom (index + 1) (b :: rest)
  | _ => []

/-- A candidate of a list of values comes from two neighbours. -/
theorem mem_candidatesFrom {c : Candidate} {ns : List Numeral} {index : Nat} :
    c ∈ candidatesFrom index ns ↔
      ∃ l a b r, ns = l ++ a :: b :: r ∧ pairing (index + l.length) a b = some c := by
  induction ns generalizing index with
  | nil => simp [candidatesFrom]
  | cons a rest ih =>
    cases rest with
    | nil =>
      simp only [candidatesFrom, List.not_mem_nil, false_iff]
      rintro ⟨l, x, y, r, h, -⟩
      have hlength := congrArg List.length h
      simp only [List.length_cons, List.length_append, List.length_nil] at hlength
      omega
    | cons b rest =>
      rw [candidatesFrom, List.mem_append, ih, Option.mem_toList]
      constructor
      · -- Behind the first value the index has moved by one.
        rintro (h | ⟨l, x, y, r, h, hc⟩)
        · exact ⟨[], a, b, rest, rfl, h⟩
        · refine ⟨a :: l, x, y, r, by rw [h]; rfl, ?_⟩
          rw [List.length_cons, ← Nat.add_assoc, Nat.add_right_comm]
          exact hc
      · rintro ⟨l, x, y, r, h, hc⟩
        cases l with
        | nil =>
          cases h
          exact .inl hc
        | cons z l =>
          obtain ⟨-, h⟩ := List.cons.inj h
          refine .inr ⟨l, x, y, r, h, ?_⟩
          rw [List.length_cons, ← Nat.add_assoc, Nat.add_right_comm] at hc
          exact hc

/-- The candidate of two neighbouring words is that of their values. -/
theorem candidateAt_eq (p : Phrase) {u v : Word} {a b : Numeral} (hu : u.current.value? = some a)
    (hv : v.current.value? = some b) (index : Nat) :
    p.candidateAt ((u, v), index) = .ok (pairing index a b) := by
  unfold candidateAt valueOf
  rw [hu, hv]
  show Except.ok _ = Except.ok _
  congr 2
  funext side
  cases side <;> rfl

/-- The candidates of a list of words are those of their values. -/
theorem mapM_candidateAt (p : Phrase) {ws : List Word} {ns : List Numeral}
    (h : ws.map (·.current.value?) = ns.map some) (index : Nat) :
    ∃ found, ((ws.zip ws.tail).zipIdx index).mapM p.candidateAt = .ok found ∧
      found.filterMap id = candidatesFrom index ns := by
  induction ws generalizing ns index with
  | nil =>
    rw [List.map_nil, eq_comm, List.map_eq_nil_iff] at h
    exact ⟨[], rfl, by rw [h]; rfl⟩
  | cons u ws ih =>
    cases ns with
    | nil => cases h
    | cons a ns =>
      obtain ⟨hu, htail⟩ := List.cons.inj h
      cases ws with
      | nil =>
        rw [List.map_nil, eq_comm, List.map_eq_nil_iff] at htail
        exact ⟨[], rfl, by rw [htail]; rfl⟩
      | cons v ws =>
        cases ns with
        | nil => cases htail
        | cons b ns =>
          obtain ⟨found, hfound, hcandidates⟩ := ih htail (index + 1)
          refine ⟨pairing index a b :: found, ?_, ?_⟩
          · rw [List.tail_cons, List.zip_cons_cons, List.zipIdx_cons, List.mapM_cons,
              candidateAt_eq p hu (List.cons.inj htail).1, ok_bind]
            rw [List.tail_cons] at hfound
            rw [hfound]
            rfl
          · rw [candidatesFrom, ← hcandidates]
            cases pairing index a b <;> rfl

/-! ## The first candidate -/

namespace Candidate

theorem precedes_iff {c d : Candidate} :
    c.precedes d = true ↔ c.magnitude < d.magnitude ∨ (c.magnitude = d.magnitude ∧
      (c.sideRank < d.sideRank ∨ (c.sideRank = d.sideRank ∧ c.leftIndex < d.leftIndex))) := by
  simp [precedes]

theorem precedes_trans {b c d : Candidate} (hbc : b.precedes c = true) (hcd : c.precedes d = true) :
    b.precedes d = true := by
  rw [precedes_iff] at *
  omega

theorem not_precedes_trans {b c d : Candidate} (hcb : ¬ c.precedes b = true)
    (hdc : ¬ d.precedes c = true) : ¬ d.precedes b = true := by
  rw [precedes_iff] at *
  omega

/-- The earliest of several candidates is one of them, and none goes before it. -/
theorem foldl_earlier {b c : Candidate} {cs : List Candidate}
    (h : cs.foldl earlier (some b) = some c) :
    c ∈ b :: cs ∧ ∀ d ∈ b :: cs, ¬ d.precedes c = true := by
  induction cs generalizing b with
  | nil =>
    cases h
    refine ⟨List.mem_cons_self .., fun d hd => ?_⟩
    rw [List.mem_singleton.1 hd, precedes_iff]
    omega
  | cons d cs ih =>
    obtain ⟨hmem, hfirst⟩ := ih h
    -- The rest is folded from the earlier one of `b` and `d`, which is as early as both.
    have hbest := hfirst _ (List.mem_cons_self ..)
    have hothers : ∀ e ∈ cs, ¬ e.precedes c = true :=
      fun e he => hfirst e (List.mem_cons_of_mem _ he)
    have hboth : ¬ b.precedes c = true ∧ ¬ d.precedes c = true := by
      split at hbest
      · rename_i hdb
        exact ⟨fun hbc => hbest (precedes_trans hdb hbc), hbest⟩
      · rename_i hdb
        exact ⟨hbest, not_precedes_trans hbest hdb⟩
    constructor
    · rcases List.mem_cons.1 hmem with hc | hc
      · split at hc
        · simp [hc]
        · simp [hc]
      · simp [hc]
    · intro e he
      rcases List.mem_cons.1 he with rfl | he
      · exact hboth.1
      · rcases List.mem_cons.1 he with rfl | he
        · exact hboth.2
        · exact hothers e he

/-- Of several candidates there is an earliest one. -/
theorem exists_foldl_earlier (b : Candidate) (cs : List Candidate) :
    ∃ c, cs.foldl earlier (some b) = some c := by
  induction cs generalizing b with
  | nil => exact ⟨b, rfl⟩
  | cons d cs ih => exact ih _

theorem foldl_earlier_none {cs : List Candidate} {c : Candidate}
    (h : cs.foldl earlier none = some c) : c ∈ cs ∧ ∀ d ∈ cs, ¬ d.precedes c = true := by
  cases cs with
  | nil => cases h
  | cons b cs => exact foldl_earlier h

end Candidate

/-- The pair that merges next is the earliest candidate of the values. -/
theorem nextCandidate_eq {p : Phrase} {ns : List Numeral} (h : p.Reads ns) :
    p.nextCandidate = .ok ((candidatesFrom 0 ns).foldl Candidate.earlier none) := by
  obtain ⟨found, hfound, hcandidates⟩ := mapM_candidateAt p h 0
  unfold nextCandidate neighbours
  rw [hfound, ok_bind, hcandidates]
  rfl

/-- No pair of a list of values goes before a merge by an operand on the given side of an owner with the given
absolute value. Where several pairs are equal in both, the index does not matter here. -/
def Least (side : Side) (magnitude : Nat) (ns : List Numeral) : Prop :=
  ∀ l a b r s, ns = l ++ a :: b :: r → mergeSide a b = some s →
    magnitude ≤ (s.owner a b).value.natAbs ∧
      ((s.owner a b).value.natAbs = magnitude → s = .left → side = .left)

/-- What is least in a list is least in the first part of it. -/
theorem Least.of_append_left {side : Side} {magnitude : Nat} {ns after : List Numeral}
    (h : Least side magnitude (ns ++ after)) : Least side magnitude ns := by
  intro l a b r s hns hs
  refine h l a b (r ++ after) s ?_ hs
  rw [hns]
  simp

/-- What is least in a list is least in the last part of it. -/
theorem Least.of_append_right {side : Side} {magnitude : Nat} {before ns : List Numeral}
    (h : Least side magnitude (before ++ ns)) : Least side magnitude ns := by
  intro l a b r s hns hs
  refine h (before ++ l) a b r s ?_ hs
  rw [hns]
  simp

/-- The pair that merges next stands somewhere in the phrase, and no pair goes before it. -/
theorem exists_of_nextCandidate {p : Phrase} {ns : List Numeral} (h : p.Reads ns) {c : Candidate}
    (hc : p.nextCandidate = .ok (some c)) :
    ∃ l a b r side, ns = l ++ a :: b :: r ∧ mergeSide a b = some side ∧
      c = ⟨(side.owner a b).value.natAbs, side, l.length⟩ ∧
      Least side (side.owner a b).value.natAbs ns := by
  rw [nextCandidate_eq h, Except.ok.injEq] at hc
  obtain ⟨hmem, hfirst⟩ := Candidate.foldl_earlier_none hc
  obtain ⟨l, a, b, r, hns, hpair⟩ := mem_candidatesFrom.1 hmem
  obtain ⟨side, hside, rfl⟩ := Option.map_eq_some_iff.1 hpair
  refine ⟨l, a, b, r, side, hns, hside, by simp, fun l' a' b' r' s hns' hs => ?_⟩
  have hother := hfirst ⟨(s.owner a' b').value.natAbs, s, 0 + l'.length⟩
    (mem_candidatesFrom.2 ⟨l', a', b', r', hns', by unfold pairing; rw [hs]; rfl⟩)
  rw [Candidate.precedes_iff] at hother
  dsimp only at hother
  -- Among equal magnitudes a left owner goes before a right one.
  refine ⟨by omega, fun hmagnitude hleft => ?_⟩
  subst hleft
  cases side with
  | left => rfl
  | right =>
    refine absurd (Or.inr ⟨hmagnitude, .inl ?_⟩) hother
    exact Nat.zero_lt_one

/-- No pair merges next exactly if no two neighbours can merge. -/
theorem nextCandidate_eq_none_iff {p : Phrase} {ns : List Numeral} (h : p.Reads ns) :
    p.nextCandidate = .ok none ↔
      ∀ l a b r, ns = l ++ a :: b :: r → mergeSide a b = none := by
  rw [nextCandidate_eq h, Except.ok.injEq]
  constructor
  · intro hnone l a b r hns
    by_contra hside
    obtain ⟨side, hside⟩ := Option.ne_none_iff_exists'.1 hside
    have hmem : (⟨(side.owner a b).value.natAbs, side, 0 + l.length⟩ : Candidate) ∈
        candidatesFrom 0 ns :=
      mem_candidatesFrom.2 ⟨l, a, b, r, hns, by unfold pairing; rw [hside]; rfl⟩
    cases hcs : candidatesFrom 0 ns with
    | nil => simp [hcs] at hmem
    | cons c cs =>
      -- The earliest of some candidates is one of them, so it is not missing.
      obtain ⟨d, hd⟩ := Candidate.exists_foldl_earlier c cs
      rw [hcs] at hnone
      exact absurd (hd.symm.trans hnone) (by simp)
  · intro hnone
    have hempty : candidatesFrom 0 ns = [] := by
      refine List.eq_nil_iff_forall_not_mem.2 fun c hc => ?_
      obtain ⟨l, a, b, r, hns, hpair⟩ := mem_candidatesFrom.1 hc
      unfold pairing at hpair
      rw [hnone l a b r hns] at hpair
      cases hpair
    rw [hempty]
    rfl

end Phrase

end TextAnalysis
