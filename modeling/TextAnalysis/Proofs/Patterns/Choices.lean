/-
# What combined patterns match

Sequences and choices in their normal form take what their parts take. A choice may be written as a set, and what its
alternatives begin with may stand in front of it; neither changes what can be matched, since patterns that are written
alike match alike.
-/
import Mathlib.Data.List.SplitBy
import TextAnalysis.Pattern.Combined
import TextAnalysis.Proofs.Patterns.CharSets
import TextAnalysis.Proofs.Patterns.Machines

namespace TextAnalysis.Pattern

variable {p q : Pattern} {ps qs : List Pattern} {a b : List Place}

/-! ## Sequences -/

/-- Patterns take places one after the other. -/
def InTurn : List Pattern → List Place → List Place → Prop
  | [] => Eq
  | p :: ps => Relation.Comp p.Spans (InTurn ps)

theorem inTurn_append : InTurn (ps ++ qs) a b ↔ Relation.Comp (InTurn ps) (InTurn qs) a b := by
  induction ps generalizing a with
  | nil => exact ⟨fun h => ⟨a, rfl, h⟩, fun ⟨_, h, h'⟩ => h ▸ h'⟩
  | cons p ps ih =>
    show Relation.Comp p.Spans (InTurn (ps ++ qs)) a b ↔
      Relation.Comp (Relation.Comp p.Spans (InTurn ps)) (InTurn qs) a b
    rw [Relation.comp_assoc]
    exact exists_congr fun x => and_congr_right fun _ => ih

theorem inTurn_singleton : InTurn [p] a b ↔ p.Spans a b :=
  ⟨fun ⟨_, h, h'⟩ => h' ▸ h, fun h => ⟨b, h, rfl⟩⟩

/-- The factors of a pattern in turn take what the pattern takes. -/
theorem inTurn_factors : InTurn p.factors a b ↔ p.Spans a b := by
  induction p generalizing a b with
  | empty => exact Iff.rfl
  | sequence p q ihp ihq =>
    rw [factors, inTurn_append]
    exact exists_congr fun x => and_congr ihp ihq
  | _ => exact inTurn_singleton

theorem spans_ofFactors : (ofFactors ps).Spans a b ↔ InTurn ps a b := by
  induction ps generalizing a with
  | nil => exact Iff.rfl
  | cons p ps ih =>
    cases ps with
    | nil => exact inTurn_singleton.symm
    | cons q ps => exact exists_congr fun x => and_congr_right fun _ => ih

theorem inTurn_flatMap_factors : InTurn (ps.flatMap factors) a b ↔ InTurn ps a b := by
  induction ps generalizing a with
  | nil => exact Iff.rfl
  | cons p ps ih =>
    rw [List.flatMap_cons, inTurn_append]
    exact exists_congr fun x => and_congr inTurn_factors ih

/-- A sequence takes what its patterns take in turn. -/
theorem spans_inSequence : (inSequence ps).Spans a b ↔ InTurn ps a b := by
  rw [inSequence, spans_ofFactors, inTurn_flatMap_factors]

/-! ## Alternatives -/

/-- One of several patterns takes places. -/
def SpansAny (ps : List Pattern) (a b : List Place) : Prop :=
  ∃ p ∈ ps, p.Spans a b

theorem spansAny_cons : SpansAny (p :: ps) a b ↔ p.Spans a b ∨ SpansAny ps a b := by
  simp [SpansAny]

theorem spansAny_append : SpansAny (ps ++ qs) a b ↔ SpansAny ps a b ∨ SpansAny qs a b := by
  simp only [SpansAny, List.mem_append, or_and_right, exists_or]

theorem spansAny_singleton : SpansAny [p] a b ↔ p.Spans a b := by
  simp [SpansAny]

/-- The branches of a pattern together take what the pattern takes. -/
theorem spansAny_branches : SpansAny p.branches a b ↔ p.Spans a b := by
  induction p generalizing a b with
  | either p q ihp ihq =>
    rw [branches, spansAny_append]
    exact or_congr ihp ihq
  | _ => exact spansAny_singleton

theorem spansAny_flatMap_branches : SpansAny (ps.flatMap branches) a b ↔ SpansAny ps a b := by
  induction ps with
  | nil => exact Iff.rfl
  | cons p ps ih => rw [List.flatMap_cons, spansAny_append, spansAny_branches, spansAny_cons, ih]

theorem spans_ofBranches : (ofBranches ps).Spans a b ↔ SpansAny ps a b := by
  induction ps with
  | nil => simp [ofBranches, Spans, SpansAny, CharSet.contains]
  | cons p ps ih =>
    cases ps with
    | nil => exact spansAny_singleton.symm
    | cons q ps =>
      rw [spansAny_cons, ← ih]
      exact Iff.rfl

/-! ### Choices between characters -/

theorem contains_unionAll {sets : List CharSet} {c : Char} :
    (CharSet.unionAll sets).contains c = true ↔ ∃ s ∈ sets, s.contains c = true := by
  have h : ∀ t : CharSet, (sets.foldl .union t).contains c = true ↔
      t.contains c = true ∨ ∃ s ∈ sets, s.contains c = true := by
    induction sets with
    | nil => simp
    | cons s sets ih =>
      intro t
      rw [List.foldl_cons, ih, List.exists_mem_cons_iff, CharSet.contains, Bool.or_eq_true, or_assoc]
  rw [CharSet.unionAll, h, CharSet.contains, or_iff_right Bool.false_ne_true]

theorem eq_map_one_of_mapM_set? {sets : List CharSet} (h : ps.mapM set? = some sets) : ps = sets.map one := by
  induction ps generalizing sets with
  | nil =>
    cases h
    rfl
  | cons p ps ih =>
    rw [List.mapM_cons] at h
    obtain ⟨s, hs, h⟩ := Option.bind_eq_some_iff.1 h
    obtain ⟨rest, hrest, h⟩ := Option.bind_eq_some_iff.1 h
    cases h
    cases p <;> cases hs
    rw [ih hrest, List.map_cons]

/-- A choice between characters that is a set takes the characters of all alternatives. -/
theorem spans_of_setOfChoice? {s : CharSet} (h : setOfChoice? ps = some s) : (one s).Spans a b ↔ SpansAny ps a b := by
  obtain ⟨sets, hsets, hunion⟩ := Option.bind_eq_some_iff.1 h
  obtain rfl := eq_map_one_of_mapM_set? hsets
  dsimp only at hunion
  split at hunion
  · cases hunion
    constructor
    · rintro ⟨place, rfl, hplace⟩
      obtain ⟨c, hc, hunion⟩ := (Option.any_eq_true _ _).1 hplace
      obtain ⟨s, hs, hcontains⟩ := contains_unionAll.1 hunion
      exact ⟨one s, List.mem_map_of_mem hs, place, rfl, (Option.any_eq_true _ _).2 ⟨c, hc, hcontains⟩⟩
    · rintro ⟨_, hmem, hspans⟩
      obtain ⟨s, hs, rfl⟩ := List.mem_map.1 hmem
      obtain ⟨place, rfl, hplace⟩ := hspans
      obtain ⟨c, hc, hcontains⟩ := (Option.any_eq_true _ _).1 hplace
      exact ⟨place, rfl, (Option.any_eq_true _ _).2 ⟨c, hc, contains_unionAll.2 ⟨s, hs, hcontains⟩⟩⟩
  · cases hunion

/-! ### Common beginnings -/

/-- Patterns that are written alike take the same places. -/
theorem spans_eq_of_sameAs (h : p.sameAs q = true) : p.Spans = q.Spans := by
  induction p generalizing q with
  | empty => cases q <;> first | rfl | cases h
  | one s =>
    cases q with
    | one t =>
      funext a b
      simp only [Spans, funext (CharSet.contains_eq_of_sameAs h)]
    | _ => cases h
  | holds x =>
    cases q with
    | holds y => rw [show x = y from eq_of_beq h]
    | _ => cases h
  | group p _ => cases q <;> cases h
  | sequence p p' ih ih' =>
    cases q with
    | sequence q q' =>
      rw [sameAs, Bool.and_eq_true] at h
      funext a b
      rw [Spans, Spans, ih h.1, ih' h.2]
    | _ => cases h
  | either p p' ih ih' =>
    cases q with
    | either q q' =>
      rw [sameAs, Bool.and_eq_true] at h
      funext a b
      rw [Spans, Spans, ih h.1, ih' h.2]
    | _ => cases h
  | repeated p least most greedy ih =>
    cases q with
    | repeated q least' most' greedy' =>
      simp only [sameAs, Bool.and_eq_true, beq_iff_eq] at h
      obtain ⟨⟨⟨rfl, rfl⟩, -⟩, h⟩ := h
      funext a b
      rw [Spans, Spans, ih h]
    | _ => cases h

theorem inTurn_eq_of_samePart (h : samePart ps qs = true) : InTurn ps = InTurn qs := by
  rw [samePart, Bool.and_eq_true, beq_iff_eq] at h
  obtain ⟨hlength, hall⟩ := h
  induction ps generalizing qs with
  | nil =>
    obtain rfl := List.length_eq_zero_iff.1 hlength.symm
    rfl
  | cons p ps ih =>
    cases qs with
    | nil => cases hlength
    | cons q qs =>
      rw [List.zip_cons_cons, List.all_cons, Bool.and_eq_true] at hall
      rw [InTurn, InTurn, spans_eq_of_sameAs hall.1, ih (Nat.succ.inj hlength) hall.2]

theorem inTurn_parts : InTurn p.parts.flatten a b ↔ p.Spans a b := by
  rw [parts, List.flatten_splitBy, inTurn_factors]

/-- Sequences take the same places with as many parts as they have in common. -/
theorem inTurn_take_of_le_commonParts {xs ys : List (List Pattern)} {n : Nat} (h : n ≤ commonParts xs ys) :
    InTurn (xs.take n).flatten = InTurn (ys.take n).flatten := by
  induction n generalizing xs ys with
  | zero => rw [List.take_zero, List.take_zero]
  | succ n ih =>
    unfold commonParts at h
    split at h
    · rename_i x xs y ys
      split at h
      · rename_i hsame
        funext a b
        rw [List.take_succ_cons, List.take_succ_cons, List.flatten_cons, List.flatten_cons]
        rw [eq_iff_iff, inTurn_append, inTurn_append, inTurn_eq_of_samePart hsame, ih (Nat.le_of_succ_le_succ h)]
      · cases h
    · cases h

theorem foldl_min_le {α : Type} (f : α → Nat) (n : Nat) (xs : List α) :
    xs.foldl (fun n x => min n (f x)) n ≤ n ∧ ∀ x ∈ xs, xs.foldl (fun n x => min n (f x)) n ≤ f x := by
  induction xs generalizing n with
  | nil => simp
  | cons x xs ih =>
    obtain ⟨hstart, hrest⟩ := ih (min n (f x))
    rw [List.foldl_cons]
    refine ⟨Nat.le_trans hstart (Nat.min_le_left ..), List.forall_mem_cons.2 ⟨?_, hrest⟩⟩
    exact Nat.le_trans hstart (Nat.min_le_right ..)

/-- What alternatives begin with, and then one of what is left of them: what one of the alternatives takes. -/
theorem spansAny_of_splitCommon? {common rests : List Pattern} (h : splitCommon? ps = some (common, rests)) :
    Relation.Comp (InTurn common) (SpansAny rests) a b ↔ SpansAny ps a b := by
  unfold splitCommon? at h
  dsimp only at h
  split at h
  · cases h
  · rename_i first others hsplit
    split at h
    · cases h
    · obtain ⟨rfl, rfl⟩ := Prod.mk.inj (Option.some.inj h)
      obtain ⟨hlength, hcommon⟩ := foldl_min_le (commonParts first) first.length others
      generalize others.foldl (fun n other => min n (commonParts first other)) first.length = n at hlength hcommon ⊢
      -- Every alternative begins with as many parts as the first one.
      have hbegin : ∀ p ∈ ps, InTurn (p.parts.take n).flatten = InTurn (first.take n).flatten := by
        intro p hp
        have hmem : p.parts ∈ first :: others := hsplit ▸ List.mem_map_of_mem hp
        rcases List.mem_cons.1 hmem with heq | hmem
        · rw [heq]
        · exact (inTurn_take_of_le_commonParts (hcommon _ hmem)).symm
      have hparts : ∀ p : Pattern, p.Spans a b ↔
          Relation.Comp (InTurn (p.parts.take n).flatten) (ofFactors (p.parts.drop n).flatten).Spans a b := by
        intro p
        rw [← inTurn_parts, ← List.take_append_drop n p.parts, List.flatten_append, inTurn_append,
          List.take_append_drop]
        exact exists_congr fun x => and_congr_right fun _ => spans_ofFactors.symm
      constructor
      · rintro ⟨x, hfirst, r, hr, hx⟩
        rw [List.map_map, List.mem_map] at hr
        obtain ⟨p, hp, rfl⟩ := hr
        exact ⟨p, hp, (hparts p).2 ⟨x, hbegin p hp ▸ hfirst, hx⟩⟩
      · rintro ⟨p, hp, hspans⟩
        obtain ⟨x, hfirst, hx⟩ := (hparts p).1 hspans
        exact ⟨x, hbegin p hp ▸ hfirst, _, List.mem_map.2 ⟨p.parts, List.mem_map_of_mem hp, rfl⟩, hx⟩

/-! ### Choices -/

theorem spans_choiceWithin {steps : Nat} : (choiceWithin steps ps).Spans a b ↔ SpansAny ps a b := by
  induction steps generalizing ps a b with
  | zero => exact spans_ofBranches
  | succ steps ih =>
    rw [← spansAny_flatMap_branches]
    unfold choiceWithin
    split
    · rename_i p hp
      rw [hp, spansAny_singleton]
    · split
      · rename_i hset
        exact spans_of_setOfChoice? hset
      · split
        · rename_i hcommon
          rw [spans_inSequence, inTurn_append, ← spansAny_of_splitCommon? hcommon]
          exact exists_congr fun x => and_congr_right fun _ => inTurn_singleton.trans ih
        · exact spans_ofBranches

/-- A choice takes what one of its patterns takes. -/
theorem spans_choice : (choice ps).Spans a b ↔ SpansAny ps a b := by
  unfold choice
  split
  · exact spansAny_singleton.symm
  · exact spans_choiceWithin

end TextAnalysis.Pattern
