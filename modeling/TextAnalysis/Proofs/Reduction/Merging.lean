/-
# Merging and reducing

A merge replaces two neighbours of a phrase by one word. Reducing is a series of such merges, each of the pair
that goes first, until there is no pair left.
-/
import Mathlib.Logic.Relation
import TextAnalysis.Proofs.Reduction.Choosing

namespace TextAnalysis.Phrase

/-! ## The merged word -/

/-- The number that two neighbours make. -/
def joinedValue (a b : Numeral) (value : Int) : Numeral :=
  { value, left := a.left, right := b.right }

/-- The token that two neighbouring words make: their texts with a space between them, and the positions of
both. -/
def joinedToken (u v : Word) (n : Numeral) : Valued Numeral :=
  { fragment :=
      { text := u.current.text ++ ' ' :: v.current.text
        positions := u.current.positions.union v.current.positions
        nonempty := by simp }
    meaning := some ⟨n, n.impliedAssociation⟩ }

/-- The word that two neighbouring words make: the owner's word with a new version. -/
def joinedWord (side : Side) (u v : Word) (n : Numeral) : Word :=
  (side.owner u v).revise merging (joinedToken u v n)

@[simp] theorem joinedWord_text (side : Side) (u v : Word) (n : Numeral) :
    (joinedWord side u v n).current.text = u.current.text ++ ' ' :: v.current.text :=
  rfl

@[simp] theorem joinedWord_positions (side : Side) (u v : Word) (n : Numeral) :
    (joinedWord side u v n).current.positions = u.current.positions.union v.current.positions :=
  rfl

/-! ## Merging -/

/-- The word made of a value that is not empty. -/
theorem make_joined (u v : Word) (n : Numeral) :
    Valued.make (u.current.text ++ ' ' :: v.current.text) n n.impliedAssociation
      (u.current.positions.union v.current.positions) = .ok (joinedToken u v n) := by
  unfold Valued.make Fragment.make
  rw [dif_neg (by simp)]
  rfl

/-- What two neighbours make is what the operand between them says. -/
theorem combine_eq (p : Phrase) {side : Side} {a b : Numeral} {o : Operand}
    (h : side.operand a b = some o) :
    p.combine side a b = (o.apply (side.owner a b).value (side.consumed a b).value).map
      (joinedValue a b) := by
  unfold combine
  cases side with
  | left =>
    have h : b.left = some o := h
    dsimp only
    rw [h]
    cases o.apply b.value a.value <;> rfl
  | right =>
    have h : a.right = some o := h
    dsimp only
    rw [h]
    cases o.apply a.value b.value <;> rfl

@[simp] theorem liftM_ok {α : Type} (a : α) :
    (liftM (Except.ok a : Except CursorError α) : Except Error α) = .ok a :=
  rfl

/-- Two neighbours in a list, of which the first is replaced and the second goes away. -/
theorem eraseIdx_set_neighbours {α : Type} (l r : List α) (u v w : α) :
    ((l ++ u :: v :: r).set l.length w).eraseIdx (l.length + 1) = l ++ w :: r := by
  rw [List.set_append_right _ _ (Nat.le_refl _), Nat.sub_self, List.set_cons_zero,
    List.eraseIdx_append_of_length_le (Nat.le_succ _), Nat.succ_sub (Nat.le_refl _), Nat.sub_self]
  rfl

/-- A merge replaces two neighbours by the word that they make, if the operand accepts. -/
theorem merge_eq {p : Phrase} {l r : List Word} {u v : Word} {a b : Numeral} {side : Side}
    {o : Operand} (magnitude : Nat) (hp : p.tokens = l ++ u :: v :: r)
    (hu : u.current.value? = some a) (hv : v.current.value? = some b)
    (ho : side.operand a b = some o) :
    p.merge ⟨magnitude, side, l.length⟩ =
      (o.apply (side.owner a b).value (side.consumed a b).value).map fun value =>
        { p with
          tokens := l ++ joinedWord side u v (joinedValue a b value) :: r
          edits := p.edits + 1 } := by
  have hu' : p.tokens[l.length]? = some u := by rw [hp]; simp
  have hv' : p.tokens[l.length + 1]? = some v := by rw [hp]; simp
  have hsize : p.size = l.length + (r.length + 2) := by
    rw [Sequence.size, hp, List.length_append, List.length_cons, List.length_cons]
  unfold merge wordAt valueOf
  dsimp only
  rw [hu', hv']
  dsimp only [ok_bind]
  rw [hu, hv]
  dsimp only [ok_bind]
  rw [combine_eq p ho]
  cases o.apply (side.owner a b).value (side.consumed a b).value with
  | error e => rfl
  | ok value =>
    simp only [Except.map, ok_bind, make_joined]
    -- The cursor starts at the owner, so it stands before the other word or behind it.
    cases side with
    | left =>
      dsimp only [Candidate.owner, Candidate.consumed]
      rw [Cursor.start_eq_ok (by omega), liftM_ok, ok_bind, Cursor.forward_eq_ok ⟨rfl, rfl⟩ hv',
        liftM_ok, ok_bind, Cursor.merge_eq_ok ⟨rfl, rfl⟩ rfl (by omega) hv' hu', liftM_ok, ok_bind,
        Nat.min_eq_right (Nat.le_succ _), Nat.max_eq_left (Nat.le_succ _), hp,
        eraseIdx_set_neighbours]
      rfl
    | right =>
      dsimp only [Candidate.owner, Candidate.consumed]
      rw [Cursor.start_eq_ok (by omega), liftM_ok, ok_bind, Cursor.forward_eq_ok ⟨rfl, rfl⟩ hu',
        liftM_ok, ok_bind, Cursor.merge_eq_ok ⟨rfl, rfl⟩ rfl (by omega) hu' hv', liftM_ok, ok_bind,
        Nat.min_eq_left (Nat.le_succ _), Nat.max_eq_right (Nat.le_succ _), hp,
        eraseIdx_set_neighbours]
      rfl

/-- An operand accepts the values between its bounds. -/
theorem accepts_iff {o : Operand} {x : Int} : o.accepts x = true ↔ o.low ≤ x ∧ x ≤ o.high := by
  unfold Operand.accepts
  rw [Bool.and_eq_true, decide_eq_true_iff, decide_eq_true_iff]

/-- What an operand makes of an owner and a neighbour that it accepts. -/
theorem apply_eq_ok_iff {o : Operand} {x y z : Int} :
    o.apply x y = .ok z ↔
      o.accepts y = true ∧ Integer64.holds z = true ∧ z = o.operation.eval x y := by
  unfold Operand.apply
  by_cases haccepts : o.accepts y = true
  · by_cases hholds : Integer64.holds (o.operation.eval x y) = true
    · simp only [haccepts, hholds, Bool.not_true, Bool.false_eq_true, if_false, true_and,
        Except.ok.injEq]
      constructor
      · rintro rfl
        exact ⟨hholds, rfl⟩
      · exact fun h => h.2.symm
    · simp only [haccepts, hholds, Bool.not_true, Bool.not_false, Bool.false_eq_true, if_false,
        if_true, true_and]
      constructor
      · intro h
        cases h
      · rintro ⟨hz, rfl⟩
        exact absurd hz hholds
  · simp [haccepts]

/-! ## One merge -/

/-- A phrase becomes another one by the merge that goes first. -/
def Merges (p q : Phrase) : Prop :=
  ∃ c, p.nextCandidate = .ok (some c) ∧ p.merge c = .ok q

/-- A list of values becomes another one by a merge that goes first. -/
inductive Joins : List Numeral → List Numeral → Prop
  | intro {l r : List Numeral} {a b : Numeral} {side : Side} {o : Operand} {x : Int}
      (hside : mergeSide a b = some side) (ho : side.operand a b = some o)
      (hx : o.apply (side.owner a b).value (side.consumed a b).value = .ok x)
      (hleast : Least side (side.owner a b).value.natAbs (l ++ a :: b :: r)) :
      Joins (l ++ a :: b :: r) (l ++ joinedValue a b x :: r)

/-- A merge takes one value away. -/
theorem Joins.length_eq {ns ns' : List Numeral} (h : Joins ns ns') : ns.length = ns'.length + 1 := by
  obtain ⟨-, -, -, -⟩ := h
  simp only [List.length_append, List.length_cons]
  omega

/-- Of two related lists, what is related to two neighbours of the second one are two neighbours of the first. -/
theorem exists_of_forall₂_append {α β : Type} {R : α → β → Prop} {xs : List α} {l r : List β} {u v : β}
    (h : List.Forall₂ R xs (l ++ u :: v :: r)) :
    ∃ xl x y xr, xs = xl ++ x :: y :: xr ∧ List.Forall₂ R xl l ∧ R x u ∧ R y v ∧
      List.Forall₂ R xr r := by
  have hl := List.forall₂_take_append _ _ _ h
  have hr := List.forall₂_drop_append _ _ _ h
  obtain ⟨x, rest, hu, hrest, hdrop⟩ := List.forall₂_cons_right_iff.1 hr
  obtain ⟨y, xr, hv, hxr, rfl⟩ := List.forall₂_cons_right_iff.1 hrest
  refine ⟨_, x, y, xr, ?_, hl, hu, hv, hxr⟩
  rw [← hdrop, List.take_append_drop]

/-- Words whose values are two neighbours among others are two neighbours among others. -/
theorem exists_words_of_values {ws : List Word} {l r : List Numeral} {a b : Numeral}
    (h : ws.map (·.current.value?) = (l ++ a :: b :: r).map some) :
    ∃ l' u v r', ws = l' ++ u :: v :: r' ∧ l'.length = l.length ∧
      l'.map (·.current.value?) = l.map some ∧ r'.map (·.current.value?) = r.map some ∧
      u.current.value? = some a ∧ v.current.value? = some b := by
  rw [List.map_append] at h
  obtain ⟨l', rest, rfl, hl, hrest⟩ := List.map_eq_append_iff.1 h
  obtain ⟨u, rest, rfl, hu, hrest⟩ := List.map_eq_cons_iff.1 hrest
  obtain ⟨v, r', rfl, hv, hr⟩ := List.map_eq_cons_iff.1 hrest
  refine ⟨l', u, v, r', rfl, ?_, hl, hr, hu, hv⟩
  simpa using congrArg List.length hl

/-- What one merge does: two neighbouring words become one, and so do their values. -/
theorem exists_of_merges {p q : Phrase} (h : Merges p q) {ns : List Numeral} (hns : p.Reads ns) :
    ∃ l u v r nl a b nr side o x, p.tokens = l ++ u :: v :: r ∧ ns = nl ++ a :: b :: nr ∧
      l.map (·.current.value?) = nl.map some ∧ r.map (·.current.value?) = nr.map some ∧
      u.current.value? = some a ∧ v.current.value? = some b ∧
      mergeSide a b = some side ∧ side.operand a b = some o ∧
      o.apply (side.owner a b).value (side.consumed a b).value = .ok x ∧
      Least side (side.owner a b).value.natAbs ns ∧
      q = { p with
        tokens := l ++ joinedWord side u v (joinedValue a b x) :: r
        edits := p.edits + 1 } := by
  obtain ⟨c, hc, hq⟩ := h
  obtain ⟨nl, a, b, nr, side, rfl, hside, rfl, hleast⟩ := exists_of_nextCandidate hns hc
  obtain ⟨l, u, v, r, hp, hlength, hl, hr, hu, hv⟩ := exists_words_of_values hns
  obtain ⟨o, ho⟩ := exists_operand_of_mergeSide hside
  rw [← hlength, merge_eq _ hp hu hv ho, map_eq_ok] at hq
  obtain ⟨x, hx, rfl⟩ := hq
  exact ⟨l, u, v, r, nl, a, b, nr, side, o, x, hp, rfl, hl, hr, hu, hv, hside, ho, hx, hleast, rfl⟩

/-- The values of words of which two neighbours are merged. -/
theorem reads_joined {p : Phrase} {l r : List Word} {nl nr : List Numeral} {u v : Word} {n : Numeral}
    {side : Side} (hl : l.map (·.current.value?) = nl.map some)
    (hr : r.map (·.current.value?) = nr.map some) :
    Reads { p with tokens := l ++ joinedWord side u v n :: r, edits := p.edits + 1 } (nl ++ n :: nr) := by
  unfold Reads
  rw [List.map_append, List.map_append, hl, List.map_cons, hr]
  rfl

/-- The values of a phrase after a merge come from those before by a merge. -/
theorem exists_joins_of_merges {p q : Phrase} (h : Merges p q) {ns : List Numeral}
    (hns : p.Reads ns) : ∃ ns', Joins ns ns' ∧ q.Reads ns' := by
  obtain ⟨l, u, v, r, nl, a, b, nr, side, o, x, -, rfl, hl, hr, -, -, hside, ho, hx, hleast, rfl⟩ :=
    exists_of_merges h hns
  exact ⟨_, .intro hside ho hx hleast, reads_joined hl hr⟩

/-- If the pair that goes first can be merged, then there is a merge. -/
theorem exists_merges {p : Phrase} {ns : List Numeral} (hns : p.Reads ns)
    (haccepts : ∀ l a b r side, ns = l ++ a :: b :: r → mergeSide a b = some side →
      Least side (side.owner a b).value.natAbs ns → ∃ o x, side.operand a b = some o ∧
        o.apply (side.owner a b).value (side.consumed a b).value = .ok x) :
    p.nextCandidate = .ok none ∨ ∃ q, Merges p q := by
  rw [nextCandidate_eq hns]
  cases hc : (candidatesFrom 0 ns).foldl Candidate.earlier none with
  | none => exact .inl rfl
  | some c =>
    have hnext : p.nextCandidate = .ok (some c) := by rw [nextCandidate_eq hns, hc]
    obtain ⟨nl, a, b, nr, side, rfl, hside, rfl, hleast⟩ := exists_of_nextCandidate hns hnext
    obtain ⟨l, u, v, r, hp, hlength, -, -, hu, hv⟩ := exists_words_of_values hns
    obtain ⟨o, x, ho, hx⟩ := haccepts nl a b nr side rfl hside hleast
    have hmerge := merge_eq (side.owner a b).value.natAbs hp hu hv ho
    rw [hlength, hx] at hmerge
    exact .inr ⟨_, _, hnext, hmerge⟩

/-- A merge takes one word away. -/
theorem size_of_merges {p q : Phrase} {ns : List Numeral} (hns : p.Reads ns) (h : Merges p q) :
    q.size + 1 = p.size := by
  obtain ⟨l, u, v, r, _, _, _, _, side, _, x, hp, -, -, -, -, -, -, -, -, -, rfl⟩ :=
    exists_of_merges h hns
  simp only [Sequence.size, hp, List.length_append, List.length_cons]
  omega

/-! ## Series of merges -/

/-- Rounds that succeed are a series of merges that ends where no pair can merge. -/
theorem merges_of_reduceWithin {rounds : Nat} {p t : Phrase} (h : reduceWithin rounds p = .ok t) :
    Relation.ReflTransGen Merges p t ∧ t.nextCandidate = .ok none := by
  induction rounds generalizing p with
  | zero => cases h
  | succ rounds ih =>
    obtain ⟨c, hc, h⟩ := bind_eq_ok.1 h
    cases c with
    | none =>
      cases h
      exact ⟨.refl, hc⟩
    | some c =>
      obtain ⟨q, hq, h⟩ := bind_eq_ok.1 h
      obtain ⟨hmerges, hend⟩ := ih h
      exact ⟨.head ⟨c, hc, hq⟩ hmerges, hend⟩

/-- A phrase that reduces is masked and then merged until no pair can merge. -/
theorem merges_of_reduce {s t : Phrase} (h : s.reduce = .ok t) :
    ∃ m, s.mask = .ok m ∧ Relation.ReflTransGen Merges m t ∧ t.nextCandidate = .ok none := by
  obtain ⟨m, hm, h⟩ := bind_eq_ok.1 h
  exact ⟨m, hm, merges_of_reduceWithin h⟩

/-- A property of values that merges keep holds of the values of a reduced phrase, if it holds of those of the
masked phrase. -/
theorem exists_values_of_merges {P : List Numeral → Prop}
    (hkeeps : ∀ ns ns', P ns → Joins ns ns' → P ns') {m t : Phrase}
    (h : Relation.ReflTransGen Merges m t) {ns : List Numeral} (hns : m.Reads ns) (hP : P ns) :
    ∃ ns', t.Reads ns' ∧ P ns' := by
  induction h with
  | refl => exact ⟨ns, hns, hP⟩
  | tail _ hmerges ih =>
    obtain ⟨ns', hns', hP'⟩ := ih
    obtain ⟨ns'', hjoins, hns''⟩ := exists_joins_of_merges hmerges hns'
    exact ⟨ns'', hns'', hkeeps _ _ hP' hjoins⟩

/-- Rounds succeed if there are more of them than words, and if the merge that goes first always keeps a
property of the values under which it can be made. -/
theorem reduceWithin_eq_ok {P : List Numeral → Prop}
    (haccepts : ∀ l a b r side, P (l ++ a :: b :: r) → mergeSide a b = some side →
      Least side (side.owner a b).value.natAbs (l ++ a :: b :: r) →
      ∃ o x, side.operand a b = some o ∧
        o.apply (side.owner a b).value (side.consumed a b).value = .ok x)
    (hkeeps : ∀ ns ns', P ns → Joins ns ns' → P ns')
    {rounds : Nat} {p : Phrase} {ns : List Numeral} (hns : p.Reads ns) (hP : P ns)
    (hrounds : p.size < rounds) :
    ∃ t ns', reduceWithin rounds p = .ok t ∧ t.Reads ns' ∧ P ns' ∧ t.nextCandidate = .ok none := by
  induction rounds generalizing p ns with
  | zero => exact absurd hrounds (Nat.not_lt_zero _)
  | succ rounds ih =>
    have hmerges := exists_merges hns fun l a b r side h => by
      subst h
      exact haccepts l a b r side hP
    rcases hmerges with hend | ⟨q, hq⟩
    · refine ⟨p, ns, ?_, hns, hP, hend⟩
      unfold reduceWithin
      rw [hend]
      rfl
    · obtain ⟨ns', hjoins, hns'⟩ := exists_joins_of_merges hq hns
      -- A merge leaves one word less, so the rounds that are left still suffice.
      have hsize := size_of_merges hns hq
      obtain ⟨t, nt, ht, hnt⟩ := ih hns' (hkeeps ns ns' hP hjoins) (by omega)
      obtain ⟨c, hc, hmerge⟩ := hq
      refine ⟨t, nt, ?_, hnt⟩
      unfold reduceWithin
      rw [hc, ok_bind]
      show p.merge c >>= reduceWithin rounds = _
      rw [hmerge, ok_bind, ht]

/-! ## Runs of words -/

/-- If the words of a phrase stand for consecutive runs of a list, and what two neighbours make stands for both
their runs, then the words after a merge stand for consecutive runs of the same list. -/
theorem exists_runs_of_merge {β : Type} {R : List β → Word → Prop}
    (hjoined : ∀ ru rv u v a b side o x, R ru u → R rv v → u.current.value? = some a →
      v.current.value? = some b → mergeSide a b = some side → side.operand a b = some o →
      o.apply (side.owner a b).value (side.consumed a b).value = .ok x →
      R (ru ++ rv) (joinedWord side u v (joinedValue a b x)))
    {p q : Phrase} (h : Merges p q) {ns : List Numeral} (hns : p.Reads ns) {runs : List (List β)}
    (hruns : List.Forall₂ R runs p.tokens) :
    ∃ runs', runs'.flatten = runs.flatten ∧ List.Forall₂ R runs' q.tokens := by
  obtain ⟨l, u, v, r, _, a, b, _, side, o, x, hp, -, -, -, hu, hv, hside, ho, hx, -, rfl⟩ :=
    exists_of_merges h hns
  rw [hp] at hruns
  obtain ⟨rl, ru, rv, rr, rfl, hl, hru, hrv, hr⟩ := exists_of_forall₂_append hruns
  have hjoin : R (ru ++ rv) (joinedWord side u v (joinedValue a b x)) :=
    hjoined ru rv u v a b side o x hru hrv hu hv hside ho hx
  refine ⟨rl ++ (ru ++ rv) :: rr, ?_, List.rel_append hl (.cons hjoin hr)⟩
  simp only [List.flatten_append, List.flatten_cons, List.append_assoc]

/-- Words that stand for consecutive runs of a list still do after a series of merges. -/
theorem exists_runs_of_reflTransGen {β : Type} {R : List β → Word → Prop}
    (hjoined : ∀ ru rv u v a b side o x, R ru u → R rv v → u.current.value? = some a →
      v.current.value? = some b → mergeSide a b = some side → side.operand a b = some o →
      o.apply (side.owner a b).value (side.consumed a b).value = .ok x →
      R (ru ++ rv) (joinedWord side u v (joinedValue a b x)))
    {m t : Phrase} (h : Relation.ReflTransGen Merges m t) {ns : List Numeral} (hns : m.Reads ns)
    {runs : List (List β)} (hruns : List.Forall₂ R runs m.tokens) :
    ∃ runs', runs'.flatten = runs.flatten ∧ List.Forall₂ R runs' t.tokens := by
  -- The values are carried along, since a merge is only known to join two runs if the words have values.
  have hboth : (∃ nt, t.Reads nt) ∧
      ∃ runs', runs'.flatten = runs.flatten ∧ List.Forall₂ R runs' t.tokens := by
    induction h with
    | refl => exact ⟨⟨ns, hns⟩, runs, rfl, hruns⟩
    | tail _ hmerges ih =>
      obtain ⟨⟨nq, hnq⟩, runs', hflatten, hruns'⟩ := ih
      obtain ⟨nt, -, hnt⟩ := exists_joins_of_merges hmerges hnq
      obtain ⟨runs'', hflatten', hruns''⟩ := exists_runs_of_merge hjoined hmerges hnq hruns'
      exact ⟨⟨nt, hnt⟩, runs'', hflatten'.trans hflatten, hruns''⟩
  exact hboth.2

/-! ## Phrases written out -/

/-- A word of one letter at a position, with a value and the association that its operands imply. -/
def lettered (letter : Char) (position : Nat) (n : Numeral) : Word :=
  .make ⟨⟨[letter], .single position, by simp⟩, some ⟨n, n.impliedAssociation⟩⟩

end TextAnalysis.Phrase
