/-
# Merging around powers of ten

The values of a spelled number merge level by level: what stands before and after a power of ten is merged to single
numbers before the power takes them up, the one before it first. So the values always make the same number, and the
operands accept what they meet.
-/
import TextAnalysis.Proofs.English.Spelling
import TextAnalysis.Proofs.Reduction.Merging

namespace TextAnalysis.English

open Phrase

/-! ## Numbers and powers -/

/-- A value is a number without an operand on its left. -/
structure Stands (v : Nat) (n : Numeral) : Prop where
  value : n.value = v
  number : n.isModifier = false
  left : n.left = none

namespace Stands

variable {v w : Nat} {a b : Numeral} {x : Int}

/-- What two neighbours make has no operand on its left, if the first one has none. -/
theorem joined (ha : Stands v a) (hx : x = w) : Stands w (joinedValue a b x) :=
  ⟨hx, rfl, ha.left⟩

end Stands

namespace Scale

/-- The operand by which a power of ten is multiplied. -/
def multiplier (p : Scale) : Operand :=
  ⟨.multiply, 1, p.factor⟩

/-- The operand by which a power of ten takes up a smaller number. -/
def addend (p : Scale) : Operand :=
  ⟨.add, 1, p.size - 1⟩

/-- A value is a power of ten that waits for the number before it. -/
structure Waits (p : Scale) (n : Numeral) : Prop where
  value : n.value = p.size
  number : n.isModifier = false
  left : n.left = some p.multiplier

end Scale

/-! ## Merges that lead to a number -/

/-- Lists of values that make numbers below a bound: the values before a power of ten or after it. They are numbers,
the first of them without an operand on its left. As long as there are several, a pair with an owner below the bound
can merge, and the merge that goes first can be made and does not change the number. -/
structure Steady (bound : Nat) (S : Nat → List Numeral → Prop) : Prop where
  pos : ∀ {v ns}, S v ns → 0 < v
  lt : ∀ {v ns}, S v ns → v < bound
  ne_nil : ∀ {v ns}, S v ns → ns ≠ []
  first : ∀ {v n ns}, S v (n :: ns) → n.left = none
  number : ∀ {v ns}, S v ns → ∀ n ∈ ns, n.isModifier = false
  value : ∀ {v n}, S v [n] → n.value = v
  progress : ∀ {v n n' ns}, S v (n :: n' :: ns) → ∃ l a b r side, n :: n' :: ns = l ++ a :: b :: r ∧
    mergeSide a b = some side ∧ (side.owner a b).value.natAbs < bound
  step : ∀ {v ns l a b r side}, S v ns → ns = l ++ a :: b :: r → mergeSide a b = some side →
    Least side (side.owner a b).value.natAbs ns →
    ∃ o x, side.operand a b = some o ∧
      o.apply (side.owner a b).value (side.consumed a b).value = .ok x ∧
        S v (l ++ joinedValue a b x :: r)

namespace Steady

variable {bound : Nat} {S : Nat → List Numeral → Prop}

/-- If a merge by an owner that is not below the bound goes first, then the values are merged already. -/
theorem eq_singleton (hS : Steady bound S) {v : Nat} {ns : List Numeral} (h : S v ns) {side : Side}
    {magnitude : Nat} (hleast : Least side magnitude ns) (hbound : bound ≤ magnitude) :
    ∃ n, ns = [n] ∧ Stands v n := by
  cases ns with
  | nil => exact absurd rfl (hS.ne_nil h)
  | cons n rest =>
    cases rest with
    | nil => exact ⟨n, rfl, hS.value h, hS.number h n (List.mem_singleton_self n), hS.first h⟩
    | cons n' rest =>
      obtain ⟨l, a, b, r, s, hns, hs, hlt⟩ := hS.progress h
      have := (hleast l a b r s hns hs).1
      omega

end Steady

/-- Where there is no operand on the left of the second neighbour, two neighbours merge by that of the first. -/
theorem side_eq_right {a b : Numeral} (hb : b.left = none) {side : Side}
    (h : mergeSide a b = some side) : side = .right := by
  cases side with
  | left => exact absurd hb (mergeSide_eq_left_iff.1 h).1
  | right => rfl

/-- Two neighbours of a list that is cut at one of its members stand before the cut, at it or after it. -/
theorem neighbours_of_append_cons {α : Type} {l r before after : List α} {a b p : α}
    (h : l ++ a :: b :: r = before ++ p :: after) :
    (∃ r', before = l ++ a :: b :: r' ∧ r = r' ++ p :: after) ∨
      (before = l ++ [a] ∧ b = p ∧ r = after) ∨ (l = before ∧ a = p ∧ after = b :: r) ∨
      ∃ l', l = before ++ p :: l' ∧ after = l' ++ a :: b :: r := by
  -- Both lists are taken apart from the front, until the cut or the two neighbours are reached.
  induction before generalizing l with
  | nil =>
    cases l with
    | nil =>
      obtain ⟨ha, hafter⟩ := List.cons.inj h
      exact .inr (.inr (.inl ⟨rfl, ha, hafter.symm⟩))
    | cons x l =>
      obtain ⟨hx, hafter⟩ := List.cons.inj h
      exact .inr (.inr (.inr ⟨l, by rw [hx, List.nil_append], hafter.symm⟩))
  | cons x before ih =>
    cases l with
    | nil =>
      obtain ⟨hx, htail⟩ := List.cons.inj h
      subst hx
      cases before with
      | nil =>
        obtain ⟨hb, hr⟩ := List.cons.inj htail
        exact .inr (.inl ⟨rfl, hb, hr⟩)
      | cons y before =>
        obtain ⟨hy, hr⟩ := List.cons.inj htail
        exact .inl ⟨before, by rw [hy, List.nil_append], hr⟩
    | cons y l =>
      obtain ⟨hy, htail⟩ := List.cons.inj h
      subst hy
      rcases ih htail with ⟨r', rfl, hr⟩ | ⟨rfl, hb, hr⟩ | ⟨rfl, ha, hafter⟩ | ⟨l', rfl, hafter⟩
      · exact .inl ⟨r', rfl, hr⟩
      · exact .inr (.inl ⟨rfl, hb, hr⟩)
      · exact .inr (.inr (.inl ⟨rfl, ha, hafter⟩))
      · exact .inr (.inr (.inr ⟨l', rfl, hafter⟩))

/-- A single value has no neighbours. -/
theorem append_cons_cons_ne_singleton {α : Type} {l r : List α} {a b n : α} : [n] ≠ l ++ a :: b :: r := by
  intro h
  have hlength := congrArg List.length h
  simp only [List.length_append, List.length_cons, List.length_nil] at hlength
  omega

/-- An operand accepts a number between its bounds, if the result is not too great. -/
theorem apply_eq_ok {o : Operand} {x y z : Int} (hlow : o.low ≤ y) (hhigh : y ≤ o.high)
    (hz : o.operation.eval x y = z) (hpos : 0 ≤ z) (hlt : z < 10 ^ 12) : o.apply x y = .ok z := by
  refine apply_eq_ok_iff.2 ⟨accepts_iff.2 ⟨hlow, hhigh⟩, ?_, hz.symm⟩
  · unfold Integer64.holds Integer64.least Integer64.greatest
    rw [decide_eq_true (by omega), decide_eq_true (by omega)]
    rfl

/-! ## Below one hundred -/

/-- Values that make a number below one hundred: one number, or one of the tens and a unit. -/
inductive TensValues : Nat → List Numeral → Prop
  | single {v : Nat} {n : Numeral} (hn : Stands v n) (hpos : 0 < v) (hlt : v < 100) : TensValues v [n]
  | pair {v u : Nat} {n n' : Numeral} (hn : Stands v n) (hright : n.right = some ⟨.add, 1, 9⟩)
      (hn' : Stands u n') (hpos : 0 < u) (hu : u < 10) (hlt : v + u < 100) : TensValues (v + u) [n, n']

theorem steady_tensValues : Steady 100 TensValues where
  pos h := by
    cases h with
    | single _ hpos => exact hpos
    | pair _ _ _ hpos => omega
  lt h := by
    cases h with
    | single _ _ hlt => exact hlt
    | pair _ _ _ _ _ hlt => exact hlt
  ne_nil h := by
    cases h with
    | single => simp
    | pair => simp
  first h := by
    cases h with
    | single hn => exact hn.left
    | pair hn => exact hn.left
  number h n hmem := by
    cases h with
    | single hn => exact List.mem_singleton.1 hmem ▸ hn.number
    | pair hn _ hn' =>
      rcases List.mem_pair.1 hmem with rfl | rfl
      · exact hn.number
      · exact hn'.number
  value h := by
    cases h with
    | single hn => exact hn.value
  progress {v n n' ns} h := by
    cases h with
    | @pair v u _ _ hn hright hn' hpos hu hlt =>
      have hside : mergeSide n n' = some .right :=
        mergeSide_eq_right_iff.2 ⟨by simp [hright], hn'.number, .inl hn'.left⟩
      refine ⟨[], n, n', [], .right, rfl, hside, ?_⟩
      have hvalue : (Side.right.owner n n').value = v := hn.value
      omega
  step {v ns l a b r side} h hns hside _ := by
    cases h with
    | single => exact absurd hns append_cons_cons_ne_singleton
    | @pair v u n n' hn hright hn' hpos hu hlt =>
      cases l with
      | cons x l => exact absurd (List.cons.inj hns).2 append_cons_cons_ne_singleton
      | nil =>
        obtain ⟨rfl, rfl, rfl⟩ : n = a ∧ n' = b ∧ [] = r := by simpa using hns
        obtain rfl := side_eq_right hn'.left hside
        refine ⟨⟨.add, 1, 9⟩, ((v + u : Nat) : Int), hright, ?_, ?_⟩
        · show Operand.apply _ n.value n'.value = _
          rw [hn.value, hn'.value]
          exact apply_eq_ok (by dsimp only; omega) (by dsimp only; omega) rfl (by omega) (by omega)
        · exact .single (hn.joined rfl) (by omega) hlt

/-! ## Around a power of ten -/

namespace Scale

variable {p : Scale} {lower : Nat → List Numeral → Prop}

/-- The values after a power of ten, or after the number that it has become. They make a smaller number, which
it waits for, or there are none. -/
def Follows (p : Scale) (lower : Nat → List Numeral → Prop) (n : Numeral) (v : Nat)
    (after : List Numeral) : Prop :=
  (after = [] ∧ v = 0) ∨ (n.right = some p.addend ∧ lower v after)

/-- Values that make a number by way of a power of ten: the power between the values before and after it, then the
multiplied power with the values after it, and at last a single number. Smaller numbers do without the power. -/
inductive Values (p : Scale) (lower : Nat → List Numeral → Prop) : Nat → List Numeral → Prop
  | below {v : Nat} {ns : List Numeral} (h : lower v ns) : Values p lower v ns
  | around {q v : Nat} {before after : List Numeral} {n : Numeral} (hbefore : lower q before)
      (hq : q ≤ p.factor) (hn : p.Waits n) (hafter : p.Follows lower n v after) :
      Values p lower (p.size * q + v) (before ++ n :: after)
  | behind {q v : Nat} {after : List Numeral} {n : Numeral} (hpos : 0 < q) (hq : q ≤ p.factor)
      (hn : Stands (p.size * q) n) (hafter : p.Follows lower n v after) :
      Values p lower (p.size * q + v) (n :: after)
  | done {v : Nat} {n : Numeral} (hn : Stands v n) (hpos : 0 < v) (hlt : v < p.size * (p.factor + 1)) :
      Values p lower v [n]

namespace Follows

variable {n : Numeral} {v : Nat} {after : List Numeral}

theorem lt (h : p.Follows lower n v after) (hS : Steady p.size lower) : v < p.size := by
  rcases h with ⟨-, rfl⟩ | ⟨-, h⟩
  · exact p.size_pos
  · exact hS.lt h

theorem number (h : p.Follows lower n v after) (hS : Steady p.size lower) :
    ∀ m ∈ after, m.isModifier = false := by
  rcases h with ⟨rfl, -⟩ | ⟨-, h⟩
  · simp
  · exact hS.number h

/-- What follows depends on the power only by its operand. -/
theorem of_right_eq (h : p.Follows lower n v after) {m : Numeral} (hm : m.right = n.right) :
    p.Follows lower m v after := by
  rcases h with h | ⟨hright, h⟩
  · exact .inl h
  · exact .inr ⟨hm.trans hright, h⟩

/-- A merge among the values that follow does not change what they make. -/
theorem step (h : p.Follows lower n v after) (hS : Steady p.size lower) {l r : List Numeral} {a b : Numeral}
    (hafter : after = l ++ a :: b :: r) {side : Side} (hside : mergeSide a b = some side)
    (hleast : Least side (side.owner a b).value.natAbs after) :
    ∃ o x, side.operand a b = some o ∧ o.apply (side.owner a b).value (side.consumed a b).value = .ok x ∧
      p.Follows lower n v (l ++ joinedValue a b x :: r) := by
  rcases h with ⟨rfl, -⟩ | ⟨hright, h⟩
  · simp at hafter
  · obtain ⟨o, x, ho, hx, hnew⟩ := hS.step h hafter hside hleast
    exact ⟨o, x, ho, hx, .inr ⟨hright, hnew⟩⟩

/-- A first value that follows is a number without an operand on its left, for which the power waits. -/
theorem of_cons {b : Numeral} {r : List Numeral} (h : p.Follows lower n v (b :: r))
    (hS : Steady p.size lower) : n.right = some p.addend ∧ lower v (b :: r) ∧ b.left = none := by
  rcases h with ⟨h, -⟩ | ⟨hright, h⟩
  · cases h
  · exact ⟨hright, h, hS.first h⟩

end Follows

theorem lt_of_factor {q v : Nat} (hq : q ≤ p.factor) (hv : v < p.size) :
    p.size * q + v < p.size * (p.factor + 1) := by
  have hmul : p.size * q ≤ p.size * p.factor := Nat.mul_le_mul_left _ hq
  rw [Nat.mul_succ]
  omega

theorem size_le_mul {q : Nat} (hpos : 0 < q) : p.size ≤ p.size * q :=
  Nat.le_mul_of_pos_right _ hpos

theorem size_lt_bound : p.size < p.size * (p.factor + 1) := by
  have hmul : p.size * 1 ≤ p.size * p.factor := Nat.mul_le_mul_left _ p.factor_pos
  have hpos := p.size_pos
  rw [Nat.mul_succ]
  omega

/-- A power of ten and a number before it merge by the power's left operand. -/
theorem Waits.mergeSide_eq {a n : Numeral} (hn : p.Waits n) (ha : a.isModifier = false) :
    mergeSide a n = some .left :=
  mergeSide_eq_left_iff.2 ⟨by simp [hn.left], ha⟩

/-- If the values before a power of ten are not merged yet, then they go first; so the power is multiplied by a
single number. -/
theorem step_multiply (hS : Steady p.size lower) {q v : Nat} {before after : List Numeral} {n : Numeral}
    (hbefore : lower q before) (hq : q ≤ p.factor) (hn : p.Waits n)
    (hafter : p.Follows lower n v after) {l : List Numeral} {a : Numeral} (hl : before = l ++ [a])
    {side : Side} (hside : mergeSide a n = some side)
    (hleast : Least side (side.owner a n).value.natAbs (before ++ n :: after)) :
    ∃ o x, side.operand a n = some o ∧ o.apply (side.owner a n).value (side.consumed a n).value = .ok x ∧
      p.Values lower (p.size * q + v) (l ++ joinedValue a n x :: after) := by
  have hnumber : a.isModifier = false := hS.number hbefore a (by simp [hl])
  obtain rfl : side = .left := Option.some.inj (hside.symm.trans (hn.mergeSide_eq hnumber))
  have hmagnitude : (Side.left.owner a n).value.natAbs = p.size := by
    show n.value.natAbs = _
    rw [hn.value]
    rfl
  rw [hmagnitude] at hleast
  -- All owners before the power are smaller, so there is none left.
  obtain ⟨m, hm, ha⟩ := hS.eq_singleton hbefore hleast.of_append_left (Nat.le_refl _)
  obtain ⟨rfl, rfl⟩ : l = [] ∧ a = m := by
    have h := hl.symm.trans hm
    cases l with
    | nil => exact ⟨rfl, List.singleton_inj.1 h⟩
    | cons x l => simp at h
  have hpos := hS.pos hbefore
  have hlt := lt_of_factor hq p.size_pos
  have hbound := p.bounded
  refine ⟨p.multiplier, ((p.size * q : Nat) : Int), hn.left, ?_, ?_⟩
  · show p.multiplier.apply n.value a.value = _
    rw [hn.value, ha.value]
    refine apply_eq_ok (by show (1 : Int) ≤ q; omega) (by show (q : Int) ≤ p.factor; omega) ?_ ?_ ?_
    · exact (Int.natCast_mul _ _).symm
    · omega
    · omega
  · exact .behind hpos hq (ha.joined rfl) (hafter.of_right_eq rfl)

/-- If the values after a power of ten are not merged yet, then they go first; so the power takes up a single
number. -/
theorem step_add (hS : Steady p.size lower) {q v : Nat} {n b : Numeral} {r : List Numeral} (hpos : 0 < q)
    (hq : q ≤ p.factor) (hn : Stands (p.size * q) n) (hright : n.right = some p.addend)
    (hafter : lower v (b :: r)) {side : Side} (hside : mergeSide n b = some side)
    (hleast : Least side (side.owner n b).value.natAbs (n :: b :: r)) :
    ∃ o x, side.operand n b = some o ∧ o.apply (side.owner n b).value (side.consumed n b).value = .ok x ∧
      p.Values lower (p.size * q + v) (joinedValue n b x :: r) := by
  obtain rfl := side_eq_right (hS.first hafter) hside
  have hmagnitude : (Side.right.owner n b).value.natAbs = p.size * q := by
    show n.value.natAbs = _
    rw [hn.value]
    rfl
  rw [hmagnitude] at hleast
  -- The multiplied power is an owner that is not below the size, so nothing is left to merge behind it.
  have hbehind : Least .right (p.size * q) ([n] ++ b :: r) := hleast
  obtain ⟨m, hm, hb⟩ := hS.eq_singleton hafter hbehind.of_append_right (size_le_mul hpos)
  obtain ⟨rfl, rfl⟩ := List.cons.inj hm
  have hv := hS.pos hafter
  have hv' := hS.lt hafter
  have hlt := lt_of_factor hq hv'
  have hbound := p.bounded
  refine ⟨p.addend, ((p.size * q + v : Nat) : Int), hright, ?_, ?_⟩
  · show p.addend.apply n.value b.value = _
    rw [hn.value, hb.value]
    refine apply_eq_ok (by show (1 : Int) ≤ v; omega) (by show (v : Int) ≤ p.size - 1; omega) ?_ ?_ ?_
    · exact (Int.natCast_add _ _).symm
    · omega
    · omega
  · exact .done (hn.joined rfl) (by omega) hlt

/-- The merge that goes first around a power of ten keeps the number, wherever it is: before the power, at it or
after it. -/
theorem step_around (hS : Steady p.size lower) {q v : Nat} {before after : List Numeral} {n : Numeral}
    (hbefore : lower q before) (hq : q ≤ p.factor) (hn : p.Waits n)
    (hafter : p.Follows lower n v after) {l r : List Numeral} {a b : Numeral}
    (hns : before ++ n :: after = l ++ a :: b :: r) {side : Side} (hside : mergeSide a b = some side)
    (hleast : Least side (side.owner a b).value.natAbs (before ++ n :: after)) :
    ∃ o x, side.operand a b = some o ∧ o.apply (side.owner a b).value (side.consumed a b).value = .ok x ∧
      p.Values lower (p.size * q + v) (l ++ joinedValue a b x :: r) := by
  rcases neighbours_of_append_cons hns.symm with
    ⟨r', hl, rfl⟩ | ⟨hl, rfl, rfl⟩ | ⟨rfl, rfl, rfl⟩ | ⟨l', rfl, hr⟩
  · obtain ⟨o, x, ho, hx, hnew⟩ := hS.step hbefore hl hside hleast.of_append_left
    refine ⟨o, x, ho, hx, ?_⟩
    have h := Values.around hnew hq hn hafter
    rwa [List.append_assoc, List.cons_append] at h
  · exact step_multiply hS hbefore hq hn hafter hl hside hleast
  · -- A power takes up nothing after it as long as there is a number before it.
    obtain ⟨-, -, hleft⟩ := hafter.of_cons hS
    obtain rfl := side_eq_right hleft hside
    rcases List.eq_nil_or_concat l with rfl | ⟨l', c, rfl⟩
    · exact absurd rfl (hS.ne_nil hbefore)
    · have hnumber : c.isModifier = false := hS.number hbefore c (by simp)
      have hfirst := (hleast l' c a (b :: r) .left (by simp) (hn.mergeSide_eq hnumber)).2 rfl rfl
      cases hfirst
  · have hbehind : Least side (side.owner a b).value.natAbs ((before ++ [n]) ++ after) := by
      rw [List.append_assoc]
      exact hleast
    obtain ⟨o, x, ho, hx, hnew⟩ := hafter.step hS hr hside hbehind.of_append_right
    refine ⟨o, x, ho, hx, ?_⟩
    rw [List.append_assoc, List.cons_append]
    exact .around hbefore hq hn hnew

/-- Once a power of ten is multiplied, the merge that goes first is the one at it or among the values after it, and
keeps the number. -/
theorem step_behind (hS : Steady p.size lower) {q v : Nat} {after : List Numeral} {n : Numeral}
    (hpos : 0 < q) (hq : q ≤ p.factor) (hn : Stands (p.size * q) n)
    (hafter : p.Follows lower n v after) {l r : List Numeral} {a b : Numeral}
    (hns : n :: after = l ++ a :: b :: r) {side : Side} (hside : mergeSide a b = some side)
    (hleast : Least side (side.owner a b).value.natAbs (n :: after)) :
    ∃ o x, side.operand a b = some o ∧ o.apply (side.owner a b).value (side.consumed a b).value = .ok x ∧
      p.Values lower (p.size * q + v) (l ++ joinedValue a b x :: r) := by
  cases l with
  | nil =>
    obtain ⟨rfl, rfl⟩ := List.cons.inj hns
    obtain ⟨hright, h, -⟩ := hafter.of_cons hS
    exact step_add hS hpos hq hn hright h hside hleast
  | cons m l =>
    obtain ⟨rfl, hr⟩ := List.cons.inj hns
    have hbehind : Least side (side.owner a b).value.natAbs ([n] ++ after) := hleast
    obtain ⟨o, x, ho, hx, hnew⟩ := hafter.step hS hr hside hbehind.of_append_right
    exact ⟨o, x, ho, hx, .behind hpos hq hn hnew⟩

/-- The values around a power of ten merge as those of smaller numbers do. -/
theorem steady_values (p : Scale) (hS : Steady p.size lower) :
    Steady (p.size * (p.factor + 1)) (p.Values lower) where
  pos h := by
    cases h with
    | below h => exact hS.pos h
    | around hbefore => exact Nat.add_pos_left (Nat.mul_pos p.size_pos (hS.pos hbefore)) _
    | behind hpos => exact Nat.add_pos_left (Nat.mul_pos p.size_pos hpos) _
    | done _ hpos => exact hpos
  lt h := by
    cases h with
    | below h => exact Nat.lt_trans (hS.lt h) size_lt_bound
    | around _ hq _ hafter => exact lt_of_factor hq (hafter.lt hS)
    | behind _ hq _ hafter => exact lt_of_factor hq (hafter.lt hS)
    | done _ _ hlt => exact hlt
  ne_nil h := by
    cases h with
    | below h => exact hS.ne_nil h
    | around => simp
    | behind => simp
    | done => simp
  first {v n ns} h := by
    -- The values before a power of ten are the first ones as long as there are any, and there are until it is
    -- multiplied.
    generalize hns : n :: ns = l at h
    cases h with
    | below h => exact hS.first (hns ▸ h)
    | @around q v before after m hbefore hq hm hafter =>
      cases before with
      | nil => exact absurd rfl (hS.ne_nil hbefore)
      | cons b before => exact (List.cons.inj hns).1 ▸ hS.first hbefore
    | behind _ _ hn => exact (List.cons.inj hns).1 ▸ hn.left
    | done hn => exact (List.cons.inj hns).1 ▸ hn.left
  number h m hm := by
    cases h with
    | below h => exact hS.number h m hm
    | around hbefore _ hn hafter =>
      rcases List.mem_append.1 hm with hm | hm
      · exact hS.number hbefore m hm
      · rcases List.mem_cons.1 hm with rfl | hm
        · exact hn.number
        · exact hafter.number hS m hm
    | behind _ _ hn hafter =>
      rcases List.mem_cons.1 hm with rfl | hm
      · exact hn.number
      · exact hafter.number hS m hm
    | done hn => exact List.mem_singleton.1 hm ▸ hn.number
  value {v n} h := by
    generalize hns : [n] = l at h
    cases h with
    | below h => exact hS.value (hns ▸ h)
    | @around q v before after m hbefore =>
      cases before with
      | nil => exact absurd rfl (hS.ne_nil hbefore)
      | cons b before => simp at hns
    | behind _ _ hn hafter =>
      obtain ⟨rfl, rfl⟩ := List.cons.inj hns
      rcases hafter with ⟨-, rfl⟩ | ⟨-, h⟩
      · exact hn.value
      · exact absurd rfl (hS.ne_nil h)
    | done hn => exact (List.cons.inj hns).1 ▸ hn.value
  progress {v n n' ns} h := by
    generalize hns : n :: n' :: ns = l at h
    cases h with
    | below h =>
      subst hns
      obtain ⟨l, a, b, r, side, hl, hside, hlt⟩ := hS.progress h
      exact ⟨l, a, b, r, side, hl, hside, Nat.lt_trans hlt size_lt_bound⟩
    | @around q v before after m hbefore hq hm hafter =>
      rcases List.eq_nil_or_concat before with rfl | ⟨l, a, rfl⟩
      · exact absurd rfl (hS.ne_nil hbefore)
      · have hnumber : a.isModifier = false := hS.number hbefore a (by simp)
        refine ⟨l, a, m, after, .left, by simp, hm.mergeSide_eq hnumber, ?_⟩
        show m.value.natAbs < _
        rw [hm.value]
        exact size_lt_bound
    | @behind q v after m hpos hq hm hafter =>
      obtain ⟨rfl, rfl⟩ := List.cons.inj hns
      obtain ⟨hright, h, hleft⟩ := hafter.of_cons hS
      refine ⟨[], n, n', ns, .right, rfl, mergeSide_eq_right_iff.2
        ⟨by simp [hright], hS.number h n' (List.mem_cons_self ..), .inl hleft⟩, ?_⟩
      show n.value.natAbs < _
      rw [hm.value]
      exact lt_of_factor hq p.size_pos
    | done => simp at hns
  step {v ns l a b r side} h hns hside hleast := by
    cases h with
    | below h =>
      obtain ⟨o, x, ho, hx, hnew⟩ := hS.step h hns hside hleast
      exact ⟨o, x, ho, hx, .below hnew⟩
    | around hbefore hq hn hafter => exact step_around hS hbefore hq hn hafter hns hside hleast
    | behind hpos hq hn hafter => exact step_behind hS hpos hq hn hafter hns hside hleast
    | done => exact absurd hns append_cons_cons_ne_singleton

end Scale

/-- Values that make a number below one million million. -/
def SpelledValues : Nat → List Numeral → Prop :=
  Scale.million.Values (Scale.thousand.Values (Scale.hundred.Values TensValues))

theorem steady_spelledValues : Steady (10 ^ 12) SpelledValues :=
  have hhundreds := Scale.hundred.steady_values steady_tensValues
  have hthousands := Scale.thousand.steady_values hhundreds
  Scale.million.steady_values hthousands

end TextAnalysis.English
