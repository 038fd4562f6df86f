/-
# Runs and merge trees

Every word of a reduced phrase stands for a run of neighbouring words of the phrase before. A binary tree over the
run says in which order its words were merged: a join applies an operand at the gap between its two parts, and so
its value is fixed by the words of the run alone.
-/
import TextAnalysis.Proofs.Positions
import TextAnalysis.Proofs.Reduction.Merging

namespace TextAnalysis

/-! ## Merge trees -/

/-- A tree over values: a join has the side of its owner on which the operand stands. -/
inductive MergeTree where
  | leaf (n : Numeral)
  | join (side : Side) (before after : MergeTree)

namespace MergeTree

/-- The values in order. -/
def leaves : MergeTree → List Numeral
  | leaf n => [n]
  | join _ before after => before.leaves ++ after.leaves

/-- The first of the values. -/
def first : MergeTree → Numeral
  | leaf n => n
  | join _ before _ => before.first

/-- The last of the values. -/
def last : MergeTree → Numeral
  | leaf n => n
  | join _ _ after => after.last

/-- Whether a tree is a single modifier. -/
def isLoneModifier : MergeTree → Bool
  | leaf n => n.isModifier
  | join .. => false

/-- What a tree evaluates to. A join applies the operand at the gap between its parts, which is the right operand
before the gap exactly if there is no left operand after it, or if only the part before is a single modifier. The
part that is taken up is no single modifier, its value is one that the operand accepts, and the result is an
integer of 64 bits. -/
inductive Evaluates : MergeTree → Int → Prop
  | leaf (n : Numeral) : Evaluates (leaf n) n.value
  | join {side : Side} {before after : MergeTree} {x y : Int} {o : Operand}
      (hbefore : Evaluates before x) (hafter : Evaluates after y)
      (hoperand : side.operand before.last after.first = some o)
      (hside : side = .right ↔ after.first.left = none ∨
        (before.isLoneModifier = true ∧ after.isLoneModifier = false))
      (hconsumed : (side.consumed before after).isLoneModifier = false)
      (haccepts : o.accepts (side.consumed x y) = true)
      (hholds : Integer64.holds (o.operation.eval (side.owner x y) (side.consumed x y)) = true) :
      Evaluates (join side before after) (o.operation.eval (side.owner x y) (side.consumed x y))

theorem head?_leaves (t : MergeTree) : t.leaves.head? = some t.first := by
  induction t with
  | leaf n => rfl
  | join side before after hbefore _ =>
    rw [leaves, List.head?_append, hbefore]
    rfl

theorem getLast?_leaves (t : MergeTree) : t.leaves.getLast? = some t.last := by
  induction t with
  | leaf n => rfl
  | join side before after _ hafter =>
    rw [leaves, List.getLast?_append, hafter]
    rfl

end MergeTree

namespace Phrase

/-! ## What a word stands for -/

/-- The masked value of a word at an index of a phrase. -/
def maskedAt (size : Nat) (wi : Word × Nat) : Option Numeral :=
  wi.1.current.meaning.map (masked size wi.2)

/-- A word with a value stands for a run of words of a phrase, each with its index. Its text is their texts joined
by spaces, its positions are theirs together, its value is that of a tree over their masked values, and its operands
are those at the two ends of the run. -/
structure StandsFor (size : Nat) (run : List (Word × Nat)) (tree : MergeTree) (w : Word)
    (n : Numeral) : Prop where
  value : w.current.value? = some n
  text : w.current.text = [' '].intercalate (run.map (·.1.current.text))
  positions : ∀ x, x ∈ w.current.positions ↔ ∃ wi ∈ run, x ∈ wi.1.current.positions
  leaves : run.map (maskedAt size) = tree.leaves.map some
  evaluates : tree.Evaluates n.value
  kind : n.isModifier = tree.isLoneModifier
  left : ∃ m, run.head?.bind (maskedAt size) = some m ∧ n.left = m.left
  right : ∃ m, run.getLast?.bind (maskedAt size) = some m ∧ n.right = m.right

namespace StandsFor

variable {size : Nat} {run : List (Word × Nat)} {tree : MergeTree} {w : Word} {n : Numeral}

theorem left_eq (h : StandsFor size run tree w n) : n.left = tree.first.left := by
  obtain ⟨m, hm, hleft⟩ := h.left
  have hhead := congrArg List.head? h.leaves
  rw [List.head?_map, List.head?_map, tree.head?_leaves] at hhead
  obtain ⟨wi, hwi, hfirst⟩ := Option.map_eq_some_iff.1 hhead
  rw [hwi, Option.bind_some, hfirst] at hm
  rw [hleft, Option.some.inj hm]

theorem right_eq (h : StandsFor size run tree w n) : n.right = tree.last.right := by
  obtain ⟨m, hm, hright⟩ := h.right
  have hlast := congrArg List.getLast? h.leaves
  rw [List.getLast?_map, List.getLast?_map, tree.getLast?_leaves] at hlast
  obtain ⟨wi, hwi, hfirst⟩ := Option.map_eq_some_iff.1 hlast
  rw [hwi, Option.bind_some, hfirst] at hm
  rw [hright, Option.some.inj hm]

theorem run_ne_nil (h : StandsFor size run tree w n) : run ≠ [] := by
  obtain ⟨m, hm, -⟩ := h.left
  rintro rfl
  cases hm

end StandsFor

/-- Texts joined by a separator, taken in two parts. -/
theorem intercalate_append {α : Type} (separator : List α) {xs ys : List (List α)} (hx : xs ≠ [])
    (hy : ys ≠ []) : separator.intercalate (xs ++ ys) =
      separator.intercalate xs ++ separator ++ separator.intercalate ys := by
  induction xs with
  | nil => exact absurd rfl hx
  | cons x xs ih =>
    rw [List.cons_append]
    cases xs with
    | nil => rw [List.nil_append, List.intercalate_cons_of_ne_nil hy, List.intercalate_singleton]
    | cons x' xs =>
      have hstep : separator.intercalate (x :: x' :: xs) =
          x ++ separator ++ separator.intercalate (x' :: xs) := List.intercalate_cons_cons
      rw [List.intercalate_cons_of_ne_nil (by simp), ih (by simp), hstep]
      simp only [List.append_assoc]

/-- A masked word stands for itself. -/
theorem standsFor_masked {size index : Nat} {w w' : Word} (h : maskWord size index w = .ok w') :
    ∃ tree n, StandsFor size [(w, index)] tree w' n := by
  obtain ⟨m, hm, hvalue, hfragment⟩ := maskWord_value h
  have hmasked : maskedAt size (w, index) = some (masked size index m) := by
    unfold maskedAt
    rw [hm]
    rfl
  refine ⟨.leaf (masked size index m), masked size index m, ?_⟩
  constructor
  · exact hvalue
  · show w'.current.fragment.text = _
    rw [hfragment, List.map_cons, List.map_nil, List.intercalate_singleton]
    rfl
  · intro x
    show x ∈ w'.current.fragment.positions ↔ _
    rw [hfragment]
    simp only [List.mem_singleton, exists_eq_left]
    exact Iff.rfl
  · rw [List.map_cons, hmasked]
    rfl
  · exact .leaf _
  · rfl
  · exact ⟨_, hmasked, rfl⟩
  · exact ⟨_, hmasked, rfl⟩

/-- The word that two neighbouring words make stands for both their runs. -/
theorem standsFor_joined {size : Nat} {ru rv : List (Word × Nat)} {tu tv : MergeTree} {u v : Word}
    {a b : Numeral} {side : Side} {o : Operand} {x : Int} (hu : StandsFor size ru tu u a)
    (hv : StandsFor size rv tv v b) (hside : mergeSide a b = some side)
    (ho : side.operand a b = some o)
    (hx : o.apply (side.owner a b).value (side.consumed a b).value = .ok x) :
    StandsFor size (ru ++ rv) (.join side tu tv) (joinedWord side u v (joinedValue a b x))
      (joinedValue a b x) := by
  -- The operand is applied to what the trees of the two runs evaluate to.
  have howner : (side.owner a b).value = side.owner a.value b.value := by cases side <;> rfl
  have hconsumed : (side.consumed a b).value = side.consumed a.value b.value := by cases side <;> rfl
  rw [howner, hconsumed, apply_eq_ok_iff] at hx
  obtain ⟨haccepts, hholds, rfl⟩ := hx
  constructor
  · rfl
  · rw [joinedWord_text, hu.text, hv.text, List.map_append,
      intercalate_append _ (by simpa using hu.run_ne_nil) (by simpa using hv.run_ne_nil)]
    simp
  · intro y
    rw [joinedWord_positions, Positions.mem_union, hu.positions, hv.positions]
    simp only [List.mem_append, or_and_right, exists_or]
  · rw [List.map_append, hu.leaves, hv.leaves, ← List.map_append]
    rfl
  · -- The outermost operands of the runs are those of the words, so the tree joins as the words do.
    refine .join hu.evaluates hv.evaluates ?_ ?_ ?_ haccepts hholds
    · cases side with
      | left => exact hv.left_eq.symm.trans ho
      | right => exact hu.right_eq.symm.trans ho
    · rw [← hv.left_eq, ← hu.kind, ← hv.kind]
      cases side with
      | left =>
        obtain ⟨hleft, hfree⟩ := mergeSide_eq_left_iff.1 hside
        simp [hleft, hfree]
      | right =>
        obtain ⟨-, hfree, hcase⟩ := mergeSide_eq_right_iff.1 hside
        simpa [hfree] using hcase
    · have hfree := consumed_not_isModifier hside
      cases side with
      | left => exact hu.kind ▸ hfree
      | right => exact hv.kind ▸ hfree
  · rfl
  · obtain ⟨m, hm, hleft⟩ := hu.left
    obtain ⟨wi, hwi, hm⟩ := Option.bind_eq_some_iff.1 hm
    exact ⟨m, by rw [List.head?_append, hwi]; exact hm, hleft⟩
  · obtain ⟨m, hm, hright⟩ := hv.right
    obtain ⟨wi, hwi, hm⟩ := Option.bind_eq_some_iff.1 hm
    exact ⟨m, by rw [List.getLast?_append, hwi]; exact hm, hright⟩

/-! ## Reduced phrases -/

/-- A merge joins two neighbouring runs. -/
theorem exists_runs_of_merges {size : Nat} {p q : Phrase} (h : Merges p q)
    {runs : List (List (Word × Nat))}
    (hruns : List.Forall₂ (fun run w => ∃ tree n, StandsFor size run tree w n) runs p.tokens) :
    ∃ runs', runs'.flatten = runs.flatten ∧
      List.Forall₂ (fun run w => ∃ tree n, StandsFor size run tree w n) runs' q.tokens := by
  have hvalues : ∀ w ∈ p.tokens, ∃ n, w.current.value? = some n ∧ True := by
    intro w hw
    obtain ⟨k, hk, rfl⟩ := List.mem_iff_getElem.1 hw
    obtain ⟨tree, n, hstands⟩ := hruns.get (hruns.length_eq ▸ hk) hk
    exact ⟨n, hstands.value, trivial⟩
  obtain ⟨ns, hns, -⟩ := exists_map_eq_map_some hvalues
  refine exists_runs_of_merge ?_ h hns hruns
  rintro ru rv u v a b side o x ⟨tu, nu, hru⟩ ⟨tv, nv, hrv⟩ hu hv hside ho hx
  obtain rfl : nu = a := Option.some.inj (hru.value.symm.trans hu)
  obtain rfl : nv = b := Option.some.inj (hrv.value.symm.trans hv)
  exact ⟨_, _, standsFor_joined hru hrv hside ho hx⟩

/-- **Runs of a reduced phrase.** The words of a phrase that reduces fall into consecutive runs, one for each word of
the reduced phrase, and every word stands for its run. -/
theorem reduce_runs {s t : Phrase} (h : s.reduce = .ok t) :
    ∃ runs : List (List (Word × Nat)), runs.flatten = s.tokens.zipIdx ∧ [] ∉ runs ∧
      List.Forall₂ (fun run w => ∃ tree n, StandsFor s.size run tree w n) runs t.tokens := by
  obtain ⟨m, hmask, hmerges, -⟩ := merges_of_reduce h
  clear h
  -- The runs always make up the whole phrase: masking gives single words, and a merge joins two of them.
  have hstands : ∃ runs : List (List (Word × Nat)), runs.flatten = s.tokens.zipIdx ∧
      List.Forall₂ (fun run w => ∃ tree n, StandsFor s.size run tree w n) runs t.tokens := by
    induction hmerges with
    | refl =>
      refine ⟨s.tokens.zipIdx.map fun wi => [wi], ?_, ?_⟩
      · rw [← List.flatMap_def, List.flatMap_singleton']
      · rw [List.forall₂_map_left_iff]
        exact (mask_eq_ok_iff.1 hmask).2.imp fun wi w' hw => standsFor_masked hw
    | tail _ hq ih =>
      obtain ⟨runs, hflatten, hruns⟩ := ih
      obtain ⟨runs', hflatten', hruns'⟩ := exists_runs_of_merges hq hruns
      exact ⟨runs', hflatten'.trans hflatten, hruns'⟩
  obtain ⟨runs, hflatten, hruns⟩ := hstands
  refine ⟨runs, hflatten, ?_, hruns⟩
  intro hnil
  obtain ⟨k, hk, hrun⟩ := List.mem_iff_getElem.1 hnil
  obtain ⟨tree, n, hstand⟩ := hruns.get hk (hruns.length_eq ▸ hk)
  exact hstand.run_ne_nil hrun

/-- Two hundred and four-teen: a multiplier, an addend and a modifier between four words. -/
def twoHundredFourTeen : Phrase :=
  .ofList
    [lettered 't' 0 (.number 2),
      lettered 'h' 2 { value := 100, left := some ⟨.multiply, 1, 9⟩, right := some ⟨.add, 1, 99⟩ },
      lettered 'f' 4 (.number 4),
      lettered 'e' 6 { kind := .modifier, value := 10, left := some ⟨.add, 3, 9⟩ }]

/-- The four words become one, which stands for a single run. -/
theorem reduce_runs_twoHundredFourTeen :
    ∃ t, twoHundredFourTeen.reduce = .ok t ∧ t.extract = .ok 214 ∧
      ∃ runs : List (List (Word × Nat)),
        runs.flatten = twoHundredFourTeen.tokens.zipIdx ∧ [] ∉ runs ∧
          List.Forall₂
            (fun run w => ∃ tree n, StandsFor twoHundredFourTeen.size run tree w n) runs t.tokens :=
  ⟨_, rfl, rfl, reduce_runs rfl⟩

end Phrase

end TextAnalysis
