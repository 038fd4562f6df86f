/-
# Scores as numbers

A score is a rational number, and so is a finite binary64 number. A distance that is at most a length, reported in any
way, lies between the bounds of its scale, exactly and also when it is rounded; if it is zero, it is reported as the
bound for texts that do not differ.
-/
import Mathlib.Algebra.Order.Field.Basic
import Mathlib.Data.Rat.Cast.Order
import TextAnalysis.Metric
import TextAnalysis.Proofs.Binary64

namespace TextAnalysis

/-! ## Exact values -/

namespace Binary64

/-- The exact value of a finite number. -/
def toRat? : Binary64 → Option ℚ
  | finite negative units => some (signedUnits negative units / unitsPerOne)
  | _ => none

theorem unitsPerOne_pos : (0 : ℚ) < unitsPerOne := by
  obtain ⟨e, -, hone⟩ := exists_unitsPerOne_eq
  rw [hone]
  exact Nat.cast_pos.2 (Nat.pow_pos (by decide))

theorem toRat?_finite (units : Nat) : (finite false units).toRat? = some (units / unitsPerOne : ℚ) := by
  show some (((signedUnits false units : Int) : ℚ) / unitsPerOne) = _
  rw [signedUnits, if_neg Bool.false_ne_true, Int.cast_natCast]

theorem toRat?_zero : zero.toRat? = some 0 := by
  rw [zero, toRat?_finite, Nat.cast_zero, zero_div]

theorem toRat?_one : one.toRat? = some 1 := by
  rw [one, toRat?_finite, div_self unitsPerOne_pos.ne']

/-- The greatest finite number is no less than the number of 64-bit words. Its units are not needed. -/
theorem exists_greatest_eq : ∃ units, greatest = finite false units ∧ Nat.pow 2 64 * unitsPerOne ≤ units :=
  ⟨_, rfl, by decide +kernel⟩

/-- A count that fits into a 64-bit word is no more than the greatest finite number. -/
theorem exists_toRat?_greatest : ∃ g : ℚ, greatest.toRat? = some g ∧ ∀ n < Nat.pow 2 64, (n : ℚ) ≤ g := by
  obtain ⟨units, hunits, hle⟩ := exists_greatest_eq
  rw [hunits]
  refine ⟨_, toRat?_finite units, fun n hn => (le_div_iff₀ unitsPerOne_pos).2 ?_⟩
  exact_mod_cast (Nat.mul_le_mul_right unitsPerOne (Nat.le_of_lt hn)).trans hle

end Binary64

namespace Score

/-- The exact value of a score, unless it is a quotient by zero. -/
def toRat? : Score → Option ℚ
  | count n => some n
  | quotient num den => if den = 0 then none else some (num / den)
  | complement num den => if den = 0 then none else some (1 - num / den)

/-- A score lies between two numbers, exactly and when it is rounded. -/
structure Between (x : Score) (low high : Binary64) : Prop where
  exact : ∃ l v h : ℚ, low.toRat? = some l ∧ x.toRat? = some v ∧ high.toRat? = some h ∧ l ≤ v ∧ v ≤ h
  rounded : x.toBinary64.isBetween low high = true

/-- A score is a number, exactly and when it is rounded. -/
structure Is (x : Score) (y : Binary64) : Prop where
  exact : ∃ v : ℚ, x.toRat? = some v ∧ y.toRat? = some v
  rounded : x.toBinary64 = y

section

variable {num den n : Nat}

/-! ## Counts -/

theorem between_count (h : n ≤ Integer64.greatestUnsigned) : (count n).Between .zero .greatest := by
  have hlt : n < Nat.pow 2 64 := Nat.lt_of_le_of_lt h (by decide)
  obtain ⟨g, hgreatest, hle⟩ := Binary64.exists_toRat?_greatest
  exact ⟨⟨0, n, g, Binary64.toRat?_zero, rfl, hgreatest, Nat.cast_nonneg n, hle n hlt⟩, Binary64.isBetween_ofNat hlt⟩

theorem count_zero_is : (count 0).Is .zero :=
  ⟨⟨0, by simp [toRat?], Binary64.toRat?_zero⟩, Binary64.ofRatio_zero 1⟩

/-! ## Fractions -/

theorem toRat?_quotient (hden : 0 < den) : (quotient num den).toRat? = some (num / den : ℚ) :=
  if_neg hden.ne'

theorem toRat?_complement (hden : 0 < den) : (complement num den).toRat? = some (1 - num / den : ℚ) :=
  if_neg hden.ne'

theorem div_mem_unit (hden : 0 < den) (h : num ≤ den) : (0 : ℚ) ≤ num / den ∧ (num / den : ℚ) ≤ 1 :=
  ⟨div_nonneg (Nat.cast_nonneg num) (Nat.cast_nonneg den), (div_le_one (Nat.cast_pos.2 hden)).2 (Nat.cast_le.2 h)⟩

theorem between_quotient (hden : 0 < den) (h : num ≤ den) : (quotient num den).Between .zero .one := by
  obtain ⟨hnonneg, hle⟩ := div_mem_unit hden h
  exact ⟨⟨0, _, 1, Binary64.toRat?_zero, toRat?_quotient hden, Binary64.toRat?_one, hnonneg, hle⟩,
    Binary64.isBetween_ofRatio hden h⟩

theorem between_complement (hden : 0 < den) (h : num ≤ den) : (complement num den).Between .zero .one := by
  obtain ⟨hnonneg, hle⟩ := div_mem_unit hden h
  refine ⟨⟨0, _, 1, Binary64.toRat?_zero, toRat?_complement hden, Binary64.toRat?_one, sub_nonneg.2 hle,
    sub_le_self 1 hnonneg⟩, ?_⟩
  show (Binary64.ofRatio num den).oneMinus.isBetween .zero .one = true
  exact Binary64.isBetween_oneMinus hden h

theorem quotient_self_is (h : 0 < n) : (quotient n n).Is .one := by
  refine ⟨⟨1, ?_, Binary64.toRat?_one⟩, Binary64.ofRatio_self h⟩
  rw [toRat?_quotient h, div_self (Nat.cast_ne_zero.2 h.ne')]

theorem quotient_zero_is (hden : 0 < den) : (quotient 0 den).Is .zero := by
  refine ⟨⟨0, ?_, Binary64.toRat?_zero⟩, Binary64.ofRatio_zero den⟩
  rw [toRat?_quotient hden, Nat.cast_zero, zero_div]

theorem complement_zero_is (hden : 0 < den) : (complement 0 den).Is .one := by
  refine ⟨⟨1, ?_, Binary64.toRat?_one⟩, ?_⟩
  · rw [toRat?_complement hden, Nat.cast_zero, zero_div, sub_zero]
  · show (Binary64.ofRatio 0 den).oneMinus = .one
    rw [Binary64.ofRatio_zero, Binary64.oneMinus_zero]

end

/-! ## Proportions -/

section

variable {distance length : Nat}

/-- A distance that is at most the length is a fraction of it, nothing of one if the length is zero. -/
theorem exists_proportion (h : distance ≤ length) :
    ∃ num den, 0 < den ∧ num ≤ den ∧ (distance = 0 → num = 0) ∧ proportion distance length = quotient num den ∧
      oneMinusProportion distance length = complement num den := by
  unfold proportion oneMinusProportion
  by_cases hlength : length = 0
  · exact ⟨0, 1, Nat.one_pos, Nat.zero_le _, fun _ => rfl, if_pos hlength, if_pos hlength⟩
  · exact ⟨distance, length, Nat.pos_of_ne_zero hlength, h, id, if_neg hlength, if_neg hlength⟩

end

end Score

/-! ## Reported distances -/

namespace Scale

variable {distance length : Nat}

/-- A distance that is at most the length lies between the bounds of its scale. Distances that are reported as they are
must fit into a word. -/
theorem between_report (s : Scale) (h : distance ≤ length)
    (hword : s = .distance → length ≤ Integer64.greatestUnsigned) :
    (s.report distance length).Between .zero (if s = .distance then .greatest else .one) := by
  obtain ⟨num, den, hden, hle, -, hproportion, hcomplement⟩ := Score.exists_proportion h
  cases s with
  | distance => exact Score.between_count (h.trans (hword rfl))
  | dissimilarity =>
    show (Score.proportion distance length).Between .zero .one
    rw [hproportion]
    exact Score.between_quotient hden hle
  | similarity =>
    show (Score.oneMinusProportion distance length).Between .zero .one
    rw [hcomplement]
    exact Score.between_complement hden hle

/-- The distance zero is reported as the best value of its scale. -/
theorem report_zero_is (s : Scale) (length : Nat) :
    (s.report 0 length).Is (if s = .similarity then .one else .zero) := by
  obtain ⟨num, den, hden, -, hzero, hproportion, hcomplement⟩ := Score.exists_proportion (Nat.zero_le length)
  obtain rfl := hzero rfl
  cases s with
  | distance => exact Score.count_zero_is
  | dissimilarity =>
    show (Score.proportion 0 length).Is .zero
    rw [hproportion]
    exact Score.quotient_zero_is hden
  | similarity =>
    show (Score.oneMinusProportion 0 length).Is .one
    rw [hcomplement]
    exact Score.complement_zero_is hden

end Scale

end TextAnalysis
