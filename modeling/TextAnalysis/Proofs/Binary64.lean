/-
# The order of binary64 numbers

The order is transitive, and total where both sides are numbers. A quotient is a number, zero if what is divided is, and
otherwise greater than zero unless it is so small that it rounds to zero. Rounding does not pass a power of two, so a
quotient of at most one is at most one, and so is what it lacks to one. A count that is not zero is at least one, and
greater than one unless it is one.
-/
import Mathlib.Data.Nat.Basic
import TextAnalysis.Binary64

namespace TextAnalysis.Binary64

/-! ## Order -/

/-- On which side of the finite numbers a number stands, zero if it is one of them. -/
def side : Binary64 → Int
  | infinite negative => if negative then -1 else 1
  | _ => 0

/-- The signed units of a finite number. -/
def units : Binary64 → Int
  | finite negative units => signedUnits negative units
  | _ => 0

/-- Numbers are in the order of their sides, and finite ones in that of their units. -/
theorem le_iff {x y : Binary64} :
    x.le y = true ↔ x ≠ nan ∧ y ≠ nan ∧ (x.side < y.side ∨ x.side = y.side ∧ x.units ≤ y.units) := by
  cases x with
  | nan => simp [le]
  | infinite s =>
    cases y with
    | nan => cases s <;> simp [le]
    | infinite t => cases s <;> cases t <;> simp [le, side, units]
    | finite t n => cases s <;> simp [le, side]
  | finite s m =>
    cases y with
    | nan => simp [le]
    | infinite t => cases t <;> simp [le, side]
    | finite t n => simp [le, side, units]

theorem le_trans {x y z : Binary64} (h : x.le y = true) (h' : y.le z = true) : x.le z = true := by
  obtain ⟨hx, -, hxy⟩ := le_iff.1 h
  obtain ⟨-, hz, hyz⟩ := le_iff.1 h'
  exact le_iff.2 ⟨hx, hz, by omega⟩

/-- Between two numbers, one is less than the other exactly if the other is not at most as great. -/
theorem lt_eq_true_iff {x y : Binary64} (hx : x ≠ nan) (hy : y ≠ nan) : x.lt y = true ↔ ¬ y.le x = true := by
  rw [lt, Bool.and_eq_true, Bool.not_eq_true', ← Bool.not_eq_true, and_iff_right_iff_imp]
  intro hle
  rw [le_iff] at hle ⊢
  refine ⟨hx, hy, ?_⟩
  have hafter : ¬ (y.side < x.side ∨ y.side = x.side ∧ y.units ≤ x.units) := fun h => hle ⟨hy, hx, h⟩
  omega

theorem le_of_lt {x y : Binary64} (h : x.lt y = true) : x.le y = true :=
  (Bool.and_eq_true_iff.1 h).1

/-! ## Quotients -/

theorem ofRatio_ne_nan (num den : Nat) : ofRatio num den ≠ nan := by
  unfold ofRatio ofUnitRatio
  dsimp only
  split <;> simp

theorem roundUnits_zero (den : Nat) : roundUnits 0 den = 0 := by
  unfold roundUnits roundToEven
  simp

/-- Nothing in proportion to something is nothing. -/
theorem ofRatio_zero (den : Nat) : ofRatio 0 den = zero := by
  unfold ofRatio ofUnitRatio
  rw [Nat.zero_mul, roundUnits_zero]
  exact if_pos (show 0 < unitsLimit by decide +kernel)

/-- Rounding to an integer goes no lower than leaving out the fraction. -/
theorem div_le_roundToEven (num den : Nat) : num / den ≤ roundToEven num den := by
  unfold roundToEven
  dsimp only
  split
  · exact Nat.le_refl _
  · split <;> omega

/-- The units that a significand leaves out are fewer than there are. -/
theorem pow_excessBits_le {units : Nat} (h : units ≠ 0) : Nat.pow 2 (excessBits units) ≤ units :=
  Nat.le_trans (Nat.pow_le_pow_right (by decide) (Nat.sub_le _ _)) (Nat.log2_self_le h)

/-- Rounding does not go below a power of two that is not greater. -/
theorem le_roundUnits {num den e : Nat} (hden : 0 < den) (h : den * Nat.pow 2 e ≤ num) :
    Nat.pow 2 e ≤ roundUnits num den := by
  have hquotient : Nat.pow 2 e ≤ num / den := (Nat.le_div_iff_mul_le hden).2 (by rwa [Nat.mul_comm])
  have hpos : 0 < Nat.pow 2 e := Nat.pow_pos (by decide)
  have hstep : 0 < Nat.pow 2 (excessBits (num / den)) := Nat.pow_pos (by decide)
  -- Some number of steps is at least the power, and no more than the quotient.
  obtain ⟨k, hpow, hle⟩ : ∃ k, Nat.pow 2 e ≤ k * Nat.pow 2 (excessBits (num / den)) ∧
      k * Nat.pow 2 (excessBits (num / den)) ≤ num / den := by
    by_cases hbits : excessBits (num / den) ≤ e
    · refine ⟨Nat.pow 2 (e - excessBits (num / den)), ?_⟩
      have hsplit : Nat.pow 2 (e - excessBits (num / den)) * Nat.pow 2 (excessBits (num / den)) = Nat.pow 2 e := by
        show 2 ^ _ * 2 ^ _ = 2 ^ _
        rw [← Nat.pow_add, Nat.sub_add_cancel hbits]
      exact ⟨Nat.le_of_eq hsplit.symm, hsplit ▸ hquotient⟩
    · refine ⟨1, ?_, ?_⟩
      · rw [Nat.one_mul]
        exact Nat.pow_le_pow_right (by decide) (by omega)
      · rw [Nat.one_mul]
        exact pow_excessBits_le (by omega)
  refine Nat.le_trans hpow (Nat.mul_le_mul_right _ (Nat.le_trans ?_ (div_le_roundToEven _ _)))
  rw [Nat.le_div_iff_mul_le (Nat.mul_pos hden hstep), Nat.mul_left_comm]
  exact Nat.le_trans (Nat.mul_le_mul_left den hle) (Nat.mul_div_le num den)

/-- At least one unit is not rounded to none. -/
theorem roundUnits_pos {num den : Nat} (hden : 0 < den) (h : den ≤ num) : 0 < roundUnits num den :=
  le_roundUnits (e := 0) hden (Nat.le_trans (Nat.le_of_eq (Nat.mul_one den)) h)

/-- A quotient of at least one unit is greater than zero. -/
theorem not_ofRatio_le_zero {num den : Nat} (hden : 0 < den) (h : den ≤ num * unitsPerOne) :
    ¬ (ofRatio num den).le zero = true := by
  have hpos : 0 < roundUnits (num * unitsPerOne) den := roundUnits_pos hden h
  unfold ofRatio ofUnitRatio
  dsimp only
  split
  · simp [zero, le, signedUnits]
    omega
  · simp [zero, le]

/-! ## Powers of two -/

/-- The number one is a power of two units. The exponent itself is not needed, and large to compute with. -/
theorem exists_unitsPerOne_eq : ∃ e < 2098, unitsPerOne = Nat.pow 2 e :=
  ⟨1074, by decide, by decide +kernel⟩

theorem exists_unitsLimit_eq : ∃ e, 2098 ≤ e ∧ unitsLimit = Nat.pow 2 e :=
  ⟨2098, by decide, by decide +kernel⟩

theorem pow_lt_unitsLimit {e : Nat} (h : e < 2098) : Nat.pow 2 e < unitsLimit := by
  obtain ⟨limit, hlimit, heq⟩ := exists_unitsLimit_eq
  rw [heq]
  exact Nat.pow_lt_pow_right (by decide) (by omega)

theorem excessBits_le {units e : Nat} (h : units ≤ Nat.pow 2 e) : excessBits units ≤ e := by
  refine Nat.le_trans (Nat.sub_le _ _) ?_
  by_cases hunits : units = 0
  · rw [hunits, Nat.log2_zero]
    exact Nat.zero_le e
  · exact (Nat.pow_le_pow_iff_right (by decide)).1 (Nat.le_trans (Nat.log2_self_le hunits) h)

/-- Rounding to an integer does not pass one that is not less. -/
theorem roundToEven_le {num den k : Nat} (hden : 0 < den) (h : num ≤ den * k) : roundToEven num den ≤ k := by
  have hdivision := Nat.div_add_mod num den
  have hquotient : num / den ≤ k := Nat.div_le_of_le_mul h
  unfold roundToEven
  dsimp only
  rcases Nat.eq_or_lt_of_le hquotient with heq | hlt
  · -- The quotient has no fraction then.
    have hmod : num % den = 0 := by
      rw [heq] at hdivision
      omega
    rw [if_pos (by omega)]
    exact hquotient
  · split
    · exact hquotient
    · split <;> omega

section

variable {num den e : Nat}

/-- Below a power of two, the steps between representable numbers of units divide that power. -/
theorem exists_step (h : num ≤ den * Nat.pow 2 e) :
    ∃ step k, 0 < step ∧ Nat.pow 2 e = step * k ∧ roundUnits num den = roundToEven num (den * step) * step := by
  have hle : excessBits (num / den) ≤ e := excessBits_le (Nat.div_le_of_le_mul h)
  refine ⟨Nat.pow 2 (excessBits (num / den)), Nat.pow 2 (e - excessBits (num / den)), Nat.pow_pos (by decide), ?_, rfl⟩
  show 2 ^ e = 2 ^ _ * 2 ^ _
  rw [← Nat.pow_add, Nat.add_sub_cancel' hle]

/-- Rounding does not pass a power of two that is not less. -/
theorem roundUnits_le (hden : 0 < den) (h : num ≤ den * Nat.pow 2 e) : roundUnits num den ≤ Nat.pow 2 e := by
  obtain ⟨step, k, hstep, hpow, hround⟩ := exists_step h
  rw [hpow] at h
  rw [hround, hpow, Nat.mul_comm step]
  exact Nat.mul_le_mul_right step (roundToEven_le (Nat.mul_pos hden hstep) (by rwa [Nat.mul_assoc]))

/-- A power of two is rounded to itself. -/
theorem roundUnits_pow (hden : 0 < den) : roundUnits (den * Nat.pow 2 e) den = Nat.pow 2 e :=
  Nat.le_antisymm (roundUnits_le hden (Nat.le_refl _)) (le_roundUnits hden (Nat.le_refl _))

end

/-! ## Numbers between zero and one -/

/-- A quotient that is not more than a power of two units is finite and has no more units than that. -/
theorem exists_ofUnitRatio {num den e : Nat} (hden : 0 < den) (he : e < 2098) (h : num ≤ den * Nat.pow 2 e) :
    ∃ units ≤ Nat.pow 2 e, ofUnitRatio false num den = finite false units := by
  have hle := roundUnits_le hden h
  have hlt : roundUnits num den < unitsLimit := Nat.lt_of_le_of_lt hle (pow_lt_unitsLimit he)
  refine ⟨roundUnits num den, hle, ?_⟩
  unfold ofUnitRatio
  dsimp only
  rw [if_pos hlt]

theorem isBetween_finite {units limit : Nat} (h : units ≤ limit) :
    (finite false units).isBetween zero (finite false limit) = true := by
  simp [isBetween, le, zero, signedUnits, h]

/-- A quotient of units that is at most one is finite and has no more units than one. -/
theorem exists_ofUnitRatio_le_one {num den : Nat} (hden : 0 < den) (h : num ≤ den * unitsPerOne) :
    ∃ units ≤ unitsPerOne, ofUnitRatio false num den = finite false units := by
  obtain ⟨e, he, hone⟩ := exists_unitsPerOne_eq
  rw [hone] at h ⊢
  exact exists_ofUnitRatio hden he h

theorem exists_ofRatio {num den : Nat} (hden : 0 < den) (h : num ≤ den) :
    ∃ units ≤ unitsPerOne, ofRatio num den = finite false units :=
  exists_ofUnitRatio_le_one hden (Nat.mul_le_mul_right unitsPerOne h)

/-- Equal numbers have the quotient one. -/
theorem ofRatio_self {n : Nat} (h : 0 < n) : ofRatio n n = one := by
  obtain ⟨e, he, hone⟩ := exists_unitsPerOne_eq
  have hlt : Nat.pow 2 e < unitsLimit := pow_lt_unitsLimit he
  unfold ofRatio ofUnitRatio one
  dsimp only
  rw [hone, roundUnits_pow h, if_pos hlt]

theorem oneMinus_finite {units : Nat} (h : units ≤ unitsPerOne) :
    (finite false units).oneMinus = ofUnitRatio false (unitsPerOne - units) 1 := by
  have hdifference : (unitsPerOne : Int) - signedUnits false units = ((unitsPerOne - units : Nat) : Int) := by
    rw [Int.ofNat_sub h]
    rfl
  unfold oneMinus
  dsimp only
  rw [hdifference, decide_eq_false (by omega), Int.natAbs_natCast]

theorem isBetween_ofRatio {num den : Nat} (hden : 0 < den) (h : num ≤ den) :
    (ofRatio num den).isBetween zero one = true := by
  obtain ⟨units, hunits, hratio⟩ := exists_ofRatio hden h
  rw [hratio]
  exact isBetween_finite hunits

/-- What a quotient that is at most one lacks to one is between zero and one. -/
theorem isBetween_oneMinus {num den : Nat} (hden : 0 < den) (h : num ≤ den) :
    (ofRatio num den).oneMinus.isBetween zero one = true := by
  obtain ⟨units, hunits, hratio⟩ := exists_ofRatio hden h
  have hle : unitsPerOne - units ≤ 1 * unitsPerOne := by
    rw [Nat.one_mul]
    exact Nat.sub_le _ _
  obtain ⟨left, hleft, hround⟩ := exists_ofUnitRatio_le_one Nat.one_pos hle
  rw [hratio, oneMinus_finite hunits, hround]
  exact isBetween_finite hleft

theorem oneMinus_zero : zero.oneMinus = one := by
  have hone := ofRatio_self Nat.one_pos
  rw [ofRatio, Nat.one_mul] at hone
  rw [zero, oneMinus_finite (Nat.zero_le _), Nat.sub_zero, hone]

/-! ## Counts -/

theorem ofNat_ne_nan (n : Nat) : ofNat n ≠ nan :=
  ofRatio_ne_nan n 1

theorem ofNat_zero : ofNat 0 = zero :=
  ofRatio_zero 1

theorem ofNat_one : ofNat 1 = one :=
  ofRatio_self Nat.one_pos

theorem finite_le_finite_iff {m n : Nat} : (finite false m).le (finite false n) = true ↔ m ≤ n :=
  decide_eq_true_iff.trans Int.ofNat_le

/-- A count is at least as great as a power of two units that it is not less than. -/
theorem finite_le_ofNat {n e : Nat} (h : Nat.pow 2 e ≤ n * unitsPerOne) :
    (finite false (Nat.pow 2 e)).le (ofNat n) = true := by
  have hround := le_roundUnits Nat.one_pos (show 1 * Nat.pow 2 e ≤ n * unitsPerOne by rwa [Nat.one_mul])
  unfold ofNat ofRatio ofUnitRatio
  dsimp only
  split
  · exact finite_le_finite_iff.2 hround
  · rfl

theorem zero_le_ofNat (n : Nat) : zero.le (ofNat n) = true := by
  unfold ofNat ofRatio ofUnitRatio
  dsimp only
  split
  · exact finite_le_finite_iff.2 (Nat.zero_le _)
  · rfl

/-- A count of at least one is at least one. -/
theorem one_le_ofNat {n : Nat} (h : 0 < n) : one.le (ofNat n) = true := by
  obtain ⟨e, -, hone⟩ := exists_unitsPerOne_eq
  have hle : Nat.pow 2 e ≤ n * unitsPerOne := by
    rw [hone]
    exact Nat.le_mul_of_pos_left _ h
  rw [one, hone]
  exact finite_le_ofNat hle

theorem not_ofNat_le_zero {n : Nat} (h : 0 < n) : ¬ (ofNat n).le zero = true :=
  not_ofRatio_le_zero Nat.one_pos (Nat.mul_pos h (by decide +kernel))

/-- A count of more than one is greater than one. -/
theorem not_ofNat_le_one {n : Nat} (h : 1 < n) : ¬ (ofNat n).le one = true := by
  obtain ⟨e, -, hone⟩ := exists_unitsPerOne_eq
  have hpow : Nat.pow 2 (e + 1) = 2 * Nat.pow 2 e := Nat.pow_succ'
  have hle : Nat.pow 2 (e + 1) ≤ n * unitsPerOne := by
    rw [hone, hpow]
    exact Nat.mul_le_mul_right _ h
  intro hcount
  have htwo := le_trans (finite_le_ofNat hle) hcount
  have hpos : 0 < Nat.pow 2 e := Nat.pow_pos (by decide)
  rw [one, hone, finite_le_finite_iff, hpow] at htwo
  omega

/-- A count that fits into a 64-bit word is between zero and the greatest finite number. -/
theorem isBetween_ofNat {n : Nat} (h : n < Nat.pow 2 64) : (ofNat n).isBetween zero greatest = true := by
  have hle : n * unitsPerOne ≤ 1 * Nat.pow 2 1138 := by
    have hmul := Nat.mul_le_mul_right unitsPerOne (Nat.le_of_lt h)
    have hpow : Nat.pow 2 64 * unitsPerOne = 1 * Nat.pow 2 1138 := by decide +kernel
    rwa [hpow] at hmul
  obtain ⟨units, hunits, hround⟩ := exists_ofUnitRatio Nat.one_pos (by decide) hle
  rw [ofNat, ofRatio, hround]
  exact isBetween_finite (Nat.le_trans hunits (by decide +kernel))

end TextAnalysis.Binary64
