/-
# Modifiers that face each other

Where a reduction gets stuck. A pair of neighbours with an operand between them can only fail to merge because of
a modifier. If the operand points to the right, then the modifier stands there and points on to the right, or the
two face each other; in the other direction it is the same. No operand faces an end of the phrase, so the chain of
modifiers ends at two that face each other. Modifiers are never merged, so these two were neighbours from the
beginning.
-/
import Mathlib.Data.List.Chain
import Mathlib.Data.List.Induction
import TextAnalysis.Proofs.Reduction.Ends

namespace TextAnalysis.Phrase

/-! ## Pairs that cannot merge -/

/-- Two modifiers, of which the first has a right operand and the second a left operand. -/
structure Facing (a b : Numeral) : Prop where
  first : a.isModifier = true
  second : b.isModifier = true
  right : a.right ≠ none
  left : b.left ≠ none

/-- If a right operand cannot take up its neighbour, then that is a modifier. -/
theorem isModifier_of_right {a b : Numeral} (hstuck : mergeSide a b = none) (ha : a.right ≠ none) :
    b.isModifier = true := by
  by_contra hb
  rw [Bool.not_eq_true] at hb
  have hright : ¬ (b.left = none ∨ a.isModifier = true) := by
    intro hcase
    rw [mergeSide_eq_right_iff.2 ⟨ha, hb, hcase⟩] at hstuck
    cases hstuck
  rw [not_or, Bool.not_eq_true] at hright
  rw [mergeSide_eq_left_iff.2 hright] at hstuck
  cases hstuck

/-- If a left operand cannot take up its neighbour, then that is a modifier. -/
theorem isModifier_of_left {a b : Numeral} (hstuck : mergeSide a b = none) (hb : b.left ≠ none) :
    a.isModifier = true := by
  by_contra ha
  rw [Bool.not_eq_true] at ha
  rw [mergeSide_eq_left_iff.2 ⟨hb, ha⟩] at hstuck
  cases hstuck

/-- If two operands that face each other cannot take up the neighbour, then they belong to modifiers. -/
theorem facing_of_stuck {a b : Numeral} (hstuck : mergeSide a b = none) (ha : a.right ≠ none)
    (hb : b.left ≠ none) : Facing a b :=
  ⟨isModifier_of_left hstuck hb, isModifier_of_right hstuck ha, ha, hb⟩

/-! ## Chains of modifiers -/

/-- Every modifier in a list of values has an operand. -/
def ModifiersPending (ns : List Numeral) : Prop :=
  ∀ n ∈ ns, n.isModifier = true → n.left ≠ none ∨ n.right ≠ none

/-- Two neighbours in a list of values face each other. -/
def HasFacing (ns : List Numeral) : Prop :=
  ∃ l a b r, ns = l ++ a :: b :: r ∧ Facing a b

/-- Where no two neighbours can merge and the last value has no right operand, a right operand is followed by two
modifiers that face each other. -/
theorem hasFacing_of_right {a : Numeral} {r : List Numeral}
    (hstuck : (a :: r).IsChain fun a b => mergeSide a b = none) (hpending : ModifiersPending (a :: r))
    (hlast : ∀ n ∈ (a :: r).getLast?, n.right = none) (ha : a.right ≠ none) : HasFacing (a :: r) := by
  induction r generalizing a with
  | nil => exact absurd (hlast a rfl) ha
  | cons b r ih =>
    obtain ⟨hab, hrest⟩ := List.isChain_cons_cons.1 hstuck
    by_cases hb : b.left = none
    · -- The neighbour is a modifier without a left operand, so it has a right one.
      have hmod : b.isModifier = true := isModifier_of_right hab ha
      have hright : b.right ≠ none := by
        have hoperand := hpending b (by simp) hmod
        rwa [or_iff_right (not_not.2 hb)] at hoperand
      have hlast' : ∀ n ∈ (b :: r).getLast?, n.right = none := by
        rwa [List.getLast?_cons_cons] at hlast
      obtain ⟨l, c, d, r', hl, hfacing⟩ :=
        ih hrest (fun n hn => hpending n (List.mem_cons_of_mem _ hn)) hlast' hright
      exact ⟨a :: l, c, d, r', by rw [hl]; rfl, hfacing⟩
    · exact ⟨[], a, b, r, rfl, facing_of_stuck hab ha hb⟩

/-- Where no two neighbours can merge and the first value has no left operand, a left operand is preceded by two
modifiers that face each other. -/
theorem hasFacing_of_left {l : List Numeral} {b : Numeral}
    (hstuck : (l ++ [b]).IsChain fun a b => mergeSide a b = none) (hpending : ModifiersPending (l ++ [b]))
    (hfirst : ∀ n ∈ (l ++ [b]).head?, n.left = none) (hb : b.left ≠ none) : HasFacing (l ++ [b]) := by
  -- The induction goes from the last value to the first.
  induction l using List.reverseRecOn generalizing b with
  | nil => exact absurd (hfirst b rfl) hb
  | append_singleton l a ih =>
    have hsplit : l ++ [a] ++ [b] = l ++ a :: b :: [] := by simp
    have hab : mergeSide a b = none :=
      List.isChain_iff_forall_rel_of_append_cons_cons.1 hstuck hsplit
    by_cases ha : a.right = none
    · have hmod : a.isModifier = true := isModifier_of_left hab hb
      have hleft : a.left ≠ none := by
        have hoperand := hpending a (by simp) hmod
        rwa [or_iff_left (not_not.2 ha)] at hoperand
      have hfirst' : ∀ n ∈ (l ++ [a]).head?, n.left = none := by
        intro n hn
        refine hfirst n ?_
        rw [List.head?_append, Option.mem_def.1 hn]
        rfl
      obtain ⟨l', c, d, r', hl, hfacing⟩ :=
        ih (List.isChain_append.1 hstuck).1 (fun n hn => hpending n (List.mem_append_left _ hn)) hfirst'
          hleft
      exact ⟨l', c, d, r' ++ [b], by rw [hl]; simp, hfacing⟩
    · exact ⟨l, a, b, [], by simp, facing_of_stuck hab ha hb⟩

/-- Whether a value is no resolved number: a modifier, or a value with an operand. -/
def Unresolved (n : Numeral) : Prop :=
  n.isModifier = true ∨ n.left ≠ none ∨ n.right ≠ none

theorem isResolved_of_not_unresolved {n : Numeral} (h : ¬ Unresolved n) : n.isResolved = true := by
  unfold Unresolved at h
  rw [not_or, not_or, not_not, not_not, Bool.not_eq_true] at h
  exact isResolved_iff.2 h

/-- Where no two neighbours can merge, no operand faces an end and every modifier has an operand, two modifiers
face each other as soon as a value is unresolved. -/
theorem hasFacing_of_unresolved {ns : List Numeral}
    (hstuck : ns.IsChain fun a b => mergeSide a b = none) (hpending : ModifiersPending ns)
    (hends : EndsFree ns) {n : Numeral} (hn : n ∈ ns) (hunresolved : Unresolved n) : HasFacing ns := by
  have hoperand : n.left ≠ none ∨ n.right ≠ none := hunresolved.elim (hpending n hn) id
  obtain ⟨l, r, rfl⟩ := List.append_of_mem hn
  -- The operand points to a side, and the values there are searched for the modifiers.
  rcases hoperand with hleft | hright
  · have hl : l ++ n :: r = (l ++ [n]) ++ r := by simp
    rw [hl] at hstuck hpending hends ⊢
    have hfirst : ∀ m ∈ (l ++ [n]).head?, m.left = none := by
      intro m hm
      refine hends.first m ?_
      rw [List.head?_append, Option.mem_def.1 hm]
      rfl
    obtain ⟨l', a, b, r', hsplit, hfacing⟩ := hasFacing_of_left (List.isChain_append.1 hstuck).1
      (fun m hm => hpending m (List.mem_append_left _ hm)) hfirst hleft
    exact ⟨l', a, b, r' ++ r, by rw [hsplit]; simp, hfacing⟩
  · have hlast : ∀ m ∈ (n :: r).getLast?, m.right = none := by
      intro m hm
      refine hends.last m ?_
      rw [List.getLast?_append, Option.mem_def.1 hm]
      rfl
    obtain ⟨l', a, b, r', hsplit, hfacing⟩ := hasFacing_of_right (List.isChain_append.1 hstuck).2.1
      (fun m hm => hpending m (List.mem_append_right _ hm)) hlast hright
    exact ⟨l ++ l', a, b, r', by rw [hsplit]; simp, hfacing⟩

/-! ## What merges keep -/

/-- No operand faces an end of a list of values, and every modifier has an operand. -/
structure Masked (ns : List Numeral) : Prop where
  ends : EndsFree ns
  pending : ModifiersPending ns

/-- A merge makes a number and leaves the other values as they are. -/
theorem Joins.masked {ns ns' : List Numeral} (h : Joins ns ns') (hns : Masked ns) : Masked ns' := by
  refine ⟨h.endsFree hns.ends, ?_⟩
  obtain @⟨l, r, a, b, side, o, x, -, -, -, -⟩ := h
  intro n hn hmod
  rcases List.mem_append.1 hn with hl | hr
  · exact hns.pending n (List.mem_append_left _ hl) hmod
  · rcases List.mem_cons.1 hr with rfl | hr
    · cases hmod
    · exact hns.pending n (by simp [hr]) hmod

/-- The values of a masked phrase have no operand that faces an end, and every modifier has an operand. -/
theorem masked_of_mask {p q : Phrase} (h : p.mask = .ok q) : ∃ ns, q.Reads ns ∧ Masked ns := by
  obtain ⟨ms, hms⟩ := exists_meanings_of_mask h
  have hlength : p.tokens.length = ms.length := by simpa using congrArg List.length hms
  have hsize : p.size = ms.length := hlength
  have hreads := reads_of_mask h hms
  rw [hsize] at hreads
  refine ⟨_, hreads, endsFree_masked ms, ?_⟩
  intro n hn hmod
  obtain ⟨⟨m, i⟩, hmi, rfl⟩ := List.mem_map.1 hn
  have hget : ms[i]? = some m := List.mk_mem_zipIdx_iff_getElem?.1 hmi
  have hword := congrArg (·[i]?) hms
  simp only [List.getElem?_map, hget, Option.map_some] at hword
  obtain ⟨w, hw, hmeaning⟩ := Option.map_eq_some_iff.1 hword
  obtain ⟨m', hm', hmaskable⟩ := exists_mask_iff.1 ⟨q, h⟩ w i hw
  obtain rfl : m' = m := Option.some.inj (hm'.symm.trans hmeaning)
  rw [hsize] at hmaskable
  obtain ⟨hleft, hright⟩ := masked_of_isModifier hmaskable hmod
  dsimp only
  rw [hleft, hright]
  exact (hmaskable hmod).2.2

/-! ## Words that are kept -/

/-- A word is a masked word of a phrase, with its index, or a number. -/
def KeptOrNumber (size : Nat) (run : List (Word × Nat)) (w : Word) : Prop :=
  (∃ wi, run = [wi] ∧ maskWord size wi.2 wi.1 = .ok w) ∨
    ∃ n, w.current.value? = some n ∧ n.isModifier = false

/-- Each word of a reduced phrase is a masked word of the phrase, or a number that was merged from several. -/
theorem exists_kept_of_merges {s m t : Phrase} (hmask : s.mask = .ok m) {ns : List Numeral} (hns : m.Reads ns)
    (h : Relation.ReflTransGen Merges m t) :
    ∃ runs : List (List (Word × Nat)), runs.flatten = s.tokens.zipIdx ∧
      List.Forall₂ (KeptOrNumber s.size) runs t.tokens := by
  have hmasked : List.Forall₂ (KeptOrNumber s.size) (s.tokens.zipIdx.map fun wi => [wi]) m.tokens := by
    rw [List.forall₂_map_left_iff]
    exact (mask_eq_ok_iff.1 hmask).2.imp fun wi w hw => .inl ⟨wi, rfl, hw⟩
  obtain ⟨runs, hflatten, hruns⟩ := exists_runs_of_reflTransGen
    (fun _ _ _ _ _ _ _ _ _ _ _ _ _ _ _ _ => .inr ⟨_, rfl, rfl⟩) h hns hmasked
  refine ⟨runs, hflatten.trans ?_, hruns⟩
  rw [← List.flatMap_def, List.flatMap_singleton']

/-- Two neighbours of a reduced phrase that face each other. They are the words that masking made of two
neighbours of the phrase, with all their versions. -/
structure Standoff (s t : Phrase) (u v : Word) : Prop where
  neighbours : ∃ l r, t.tokens = l ++ u :: v :: r
  before : ∃ l u' v' r, s.tokens = l ++ u' :: v' :: r ∧ maskWord s.size l.length u' = .ok u ∧
    maskWord s.size (l.length + 1) v' = .ok v
  facing : ∃ a b, u.current.value? = some a ∧ v.current.value? = some b ∧ Facing a b

/-- Modifiers of a reduced phrase that face each other were neighbours before. -/
theorem exists_standoff {s t : Phrase} {runs : List (List (Word × Nat))}
    (hflatten : runs.flatten = s.tokens.zipIdx)
    (hruns : List.Forall₂ (KeptOrNumber s.size) runs t.tokens) {ns : List Numeral} (hns : t.Reads ns)
    (h : HasFacing ns) : ∃ u v, Standoff s t u v := by
  obtain ⟨nl, a, b, nr, rfl, hfacing⟩ := h
  obtain ⟨l, u, v, r, ht, -, -, -, hu, hv⟩ := exists_words_of_values hns
  refine ⟨u, v, ⟨l, r, ht⟩, ?_, a, b, hu, hv, hfacing⟩
  rw [ht] at hruns
  obtain ⟨rl, ru, rv, rr, rfl, -, hru, hrv, -⟩ := exists_of_forall₂_append hruns
  -- A modifier is no merged number, so both runs are single words.
  have hkept : ∀ {run : List (Word × Nat)} {w : Word} {n : Numeral}, KeptOrNumber s.size run w →
      w.current.value? = some n → n.isModifier = true →
      ∃ wi, run = [wi] ∧ maskWord s.size wi.2 wi.1 = .ok w := by
    rintro run w n (hsingle | ⟨n', hn', hnumber⟩) hn hmod
    · exact hsingle
    · obtain rfl := Option.some.inj (hn'.symm.trans hn)
      rw [hnumber] at hmod
      cases hmod
  obtain ⟨⟨u', i⟩, rfl, hu'⟩ := hkept hru hu hfacing.first
  obtain ⟨⟨v', j⟩, rfl, hv'⟩ := hkept hrv hv hfacing.second
  have hsplit : s.tokens.zipIdx = rl.flatten ++ (u', i) :: (v', j) :: rr.flatten := by
    rw [← hflatten, List.flatten_append, List.flatten_cons, List.flatten_cons]
    rfl
  have hi : s.tokens.zipIdx[rl.flatten.length]? = some (u', i) := by
    rw [hsplit]
    simp
  have hj : s.tokens.zipIdx[rl.flatten.length + 1]? = some (v', j) := by
    rw [hsplit]
    simp
  rw [List.getElem?_zipIdx, Option.map_eq_some_iff] at hi hj
  obtain ⟨_, -, hi⟩ := hi
  obtain ⟨_, -, hj⟩ := hj
  have htokens : s.tokens = rl.flatten.map (·.1) ++ u' :: v' :: rr.flatten.map (·.1) := by
    have hmap := congrArg (List.map Prod.fst) hsplit
    rw [List.map_append, List.map_cons, List.map_cons] at hmap
    rw [← hmap]
    exact (List.zipIdx_map_fst 0 s.tokens).symm
  refine ⟨_, u', v', _, htokens, ?_, ?_⟩
  · rw [List.length_map]
    have hindex : i = rl.flatten.length := by
      have := congrArg Prod.snd hi
      simpa using this.symm
    rw [← hindex]
    exact hu'
  · rw [List.length_map]
    have hindex : j = rl.flatten.length + 1 := by
      have := congrArg Prod.snd hj
      simpa using this.symm
    rw [← hindex]
    exact hv'

/-! ## Stuck phrases -/

/-- **Where reductions get stuck.** If a phrase reduces to one that holds a modifier or a pending operand, then
there are two modifiers in it that face each other, and they were neighbours in the phrase. So a single word that
is left is a resolved number, and the extraction can only fail because the phrase was empty or because more than
one word is left. -/
theorem reduce_stuck {s t : Phrase} (h : s.reduce = .ok t) :
    ((∃ w ∈ t.tokens, ∃ n, w.current.value? = some n ∧ Unresolved n) → ∃ u v, Standoff s t u v) ∧
      (t.size = 1 → ∃ x, t.extract = .ok x) ∧
      ∀ e, t.extract = .error e →
        (s.tokens = [] ∧ e = .malformed t.text .noNumeral) ∨
          (2 ≤ t.size ∧ e = .malformed t.text (.numbersRemain t.size)) := by
  obtain ⟨m, hmask, hmerges, hend⟩ := merges_of_reduce h
  obtain ⟨ns, hns, hmasked⟩ := masked_of_mask hmask
  obtain ⟨runs, hflatten, hruns⟩ := exists_kept_of_merges hmask hns hmerges
  obtain ⟨nt, hnt, hkept⟩ :=
    exists_values_of_merges (fun _ _ hkept hjoins => hjoins.masked hkept) hmerges hns hmasked
  -- When the reduction ends, no two neighbours can merge.
  have hchain : nt.IsChain fun a b => mergeSide a b = none := by
    rw [List.isChain_iff_forall_rel_of_append_cons_cons]
    intro a b l r hl
    exact (nextCandidate_eq_none_iff hnt).1 hend l a b r hl
  have hfacing : ∀ n ∈ nt, Unresolved n → HasFacing nt :=
    fun n hn => hasFacing_of_unresolved hchain hkept.pending hkept.ends hn
  have hsingle : t.size = 1 → ∃ x, t.extract = .ok x := by
    intro hsize
    have hlength : nt.length = 1 := hnt.length_eq.trans hsize
    obtain ⟨n, rfl⟩ := List.length_eq_one_iff.1 hlength
    -- Two modifiers that face each other are two values.
    have hresolved : ¬ Unresolved n := by
      intro hunresolved
      obtain ⟨l, a, b, r, hsplit, -⟩ := hfacing n (by simp) hunresolved
      have hlong := congrArg List.length hsplit
      simp only [List.length_append, List.length_cons, List.length_nil] at hlong
      omega
    exact ⟨n.value, extract_eq_ok_iff.2 ⟨n, hnt, isResolved_of_not_unresolved hresolved, rfl⟩⟩
  refine ⟨?_, hsingle, ?_⟩
  · rintro ⟨w, hw, n, hn, hunresolved⟩
    obtain ⟨n', hn', hvalue⟩ := exists_mem_of_map_eq_map_some hnt hw
    obtain rfl := Option.some.inj (hvalue.symm.trans hn)
    exact exists_standoff hflatten hruns hnt (hfacing n' hn' hunresolved)
  · intro e he
    rcases extract_error_cases he with ⟨hempty, he⟩ | ⟨hsize, -⟩ | hmany
    · refine .inl ⟨?_, he⟩
      rw [hempty, List.forall₂_nil_right_iff] at hruns
      rw [hruns, List.flatten_nil, eq_comm, List.zipIdx_eq_nil_iff] at hflatten
      exact hflatten
    · obtain ⟨x, hx⟩ := hsingle hsize
      rw [hx] at he
      cases he
    · exact .inr hmany

/-- Twenty and one, which merge, and two modifiers that face each other before seven. -/
def twentyOneFacingSeven : Phrase :=
  .ofList
    [lettered 't' 0 { value := 20, right := some ⟨.add, 1, 9⟩ }, lettered 'o' 2 (.number 1),
      lettered 'm' 4 { kind := .modifier, value := 10, right := some ⟨.multiply, 1, 9⟩ },
      lettered 'n' 6 { kind := .modifier, value := 5, left := some ⟨.add, 0, 99⟩ },
      lettered 's' 8 (.number 7)]

/-- Four words are left, of which the modifiers are the second and the third. -/
theorem reduce_stuck_twentyOneFacingSeven :
    ∃ t, twentyOneFacingSeven.reduce = .ok t ∧ t.size = 4 ∧
      (∃ w ∈ t.tokens, ∃ n, w.current.value? = some n ∧ Unresolved n) ∧
      (∃ u v, Standoff twentyOneFacingSeven t u v) ∧
      (t.size = 1 → ∃ x, t.extract = .ok x) ∧
      ∀ e, t.extract = .error e →
        (twentyOneFacingSeven.tokens = [] ∧ e = .malformed t.text .noNumeral) ∨
          (2 ≤ t.size ∧ e = .malformed t.text (.numbersRemain t.size)) := by
  obtain ⟨t, ht, hsize, w, hw, hn⟩ : ∃ t, twentyOneFacingSeven.reduce = .ok t ∧ t.size = 4 ∧
      ∃ w ∈ t.tokens, ∃ n, w.current.value? = some n ∧ Unresolved n :=
    ⟨_, rfl, rfl, _, List.mem_cons_of_mem _ (List.mem_cons_self ..), _, rfl, .inl rfl⟩
  obtain ⟨hstandoff, hextract⟩ := reduce_stuck ht
  exact ⟨t, ht, hsize, ⟨w, hw, hn⟩, hstandoff ⟨w, hw, hn⟩, hextract⟩

end TextAnalysis.Phrase
