/-
# Spelled numbers

The canonical words of a number below one million million. Words are added from the greatest power of ten down, so
the words of a sum are those of its parts one after the other, if the first part has room for the second.
-/
import Mathlib.Algebra.Order.Ring.Nat
import Mathlib.Data.Nat.ModEq
import TextAnalysis.Numeral.English

namespace TextAnalysis.English

/-! ## Words -/

/-- The words of the numbers below twenty. -/
def smallWords : List Text :=
  ["zero", "one", "two", "three", "four", "five", "six", "seven", "eight", "nine", "ten", "eleven",
    "twelve", "thirteen", "fourteen", "fifteen", "sixteen", "seventeen", "eighteen", "nineteen"].map
    String.toList

/-- The words of the multiples of ten from twenty on. -/
def tensWords : List Text :=
  ["twenty", "thirty", "forty", "fifty", "sixty", "seventy", "eighty", "ninety"].map String.toList

/-- A power of ten with its word and the greatest number by which it is multiplied. -/
structure Scale where
  word : Text
  size : Nat
  factor : Nat
  factor_pos : 0 < factor
  factor_lt : factor < size
  hundred_dvd : 100 ∣ size
  bounded : size * (factor + 1) ≤ 10 ^ 12

namespace Scale

def hundred : Scale :=
  ⟨"hundred".toList, 100, 9, by decide, by decide, by decide, by decide⟩

def thousand : Scale :=
  ⟨"thousand".toList, 1000, 999, by decide, by decide, by decide, by decide⟩

def million : Scale :=
  ⟨"million".toList, 1000000, 999999, by decide, by decide, by decide, by decide⟩

theorem size_pos (p : Scale) : 0 < p.size :=
  Nat.lt_of_le_of_lt (Nat.zero_le _) p.factor_lt

theorem hundred_le_size (p : Scale) : 100 ≤ p.size :=
  Nat.le_of_dvd p.size_pos p.hundred_dvd

/-- The words of a number around the word of a power of ten, the words of smaller numbers being given. -/
def spell (p : Scale) (lower : Nat → List Text) (n : Nat) : List Text :=
  if n < p.size then lower n
  else lower (n / p.size) ++ p.word :: (if n % p.size = 0 then [] else lower (n % p.size))

end Scale

/-- The powers of ten. -/
def scales : List Scale :=
  [.hundred, .thousand, .million]

/-! ## Spelling -/

/-- The words of a number below one hundred. -/
def spellTens (n : Nat) : List Text :=
  if n < 20 then [smallWords.getD n []]
  else tensWords.getD (n / 10 - 2) [] :: (if n % 10 = 0 then [] else [smallWords.getD (n % 10) []])

/-- The words of a number below one thousand. -/
def spellHundreds : Nat → List Text :=
  Scale.hundred.spell spellTens

/-- The words of a number below one million. -/
def spellThousands : Nat → List Text :=
  Scale.thousand.spell spellHundreds

/-- The words of a number below one million million. -/
def spell : Nat → List Text :=
  Scale.million.spell spellThousands

example : spell 12000345 = ["twelve", "million", "three", "hundred", "forty", "five"].map String.toList := by
  decide

/-! ## Sums -/

/-- A number ends with room for a number below `m`. Below ten there is room after the tens from twenty on only. -/
def HasRoom (m k : Nat) : Prop :=
  k % m = 0 ∧ if m = 10 then 20 ≤ k % 100 else 0 < k

/-- The words of a sum are those of its parts, if there is room in the first part for the second. -/
def Additive (m : Nat) (f : Nat → List Text) : Prop :=
  ∀ k k', HasRoom m k → 0 < k' → k' < m → f (k + k') = f k ++ f k'

theorem additive_spellTens : Additive 10 spellTens := by
  intro k k' ⟨hmod, hroom⟩ hpos hlt
  rw [if_pos rfl] at hroom
  have hk : ¬ k < 20 := by
    have := Nat.mod_le k 100
    omega
  unfold spellTens
  rw [if_neg (by omega), if_neg hk, if_pos (by omega : k' < 20), if_neg (by omega), if_pos hmod,
    show (k + k') / 10 = k / 10 by omega, show (k + k') % 10 = k' by omega]
  rfl

namespace Scale

variable (p : Scale) (lower : Nat → List Text)

/-- A multiple of a power of ten has room for all smaller numbers. -/
theorem additive_spell : Additive p.size (p.spell lower) := by
  intro k k' ⟨hmod, hroom⟩ hpos hlt
  have hk : ¬ k < p.size := by
    intro h
    rw [Nat.mod_eq_of_lt h] at hmod
    subst hmod
    split at hroom
    · simp at hroom
    · exact absurd hroom (Nat.lt_irrefl 0)
  have hsum : k % p.size + k' % p.size < p.size := by
    rw [hmod, Nat.zero_add]
    exact Nat.mod_lt _ p.size_pos
  unfold spell
  rw [if_neg (by omega), if_neg hk, if_pos hlt, Nat.add_div_eq_of_add_mod_lt hsum,
    Nat.add_mod_of_add_mod_lt hsum, Nat.div_eq_of_lt hlt, Nat.mod_eq_of_lt hlt, hmod, Nat.zero_add,
    Nat.add_zero, if_neg (by omega), if_pos rfl]
  simp

variable {lower}

/-- Where the smaller numbers have room, the greater ones have it as well. -/
theorem additive_spell_of_dvd {m : Nat} (h : Additive m lower) (hm : m ∣ p.size) :
    Additive m (p.spell lower) := by
  intro k k' ⟨hmod, hroom⟩ hpos hlt
  have hrest : k % p.size % m = 0 := by rw [Nat.mod_mod_of_dvd k hm, hmod]
  -- Behind the power of ten, both the rest and the power are multiples of `m`.
  have hsum : k % p.size + k' < p.size := by
    obtain ⟨c, hc⟩ := hm
    obtain ⟨j, hj⟩ := Nat.dvd_of_mod_eq_zero hrest
    have hjc : m * j < m * c := by
      rw [← hj, ← hc]
      exact Nat.mod_lt _ p.size_pos
    have hnext : m * (j + 1) ≤ m * c := Nat.mul_le_mul_left m (Nat.lt_of_mul_lt_mul_left hjc)
    rw [hj, hc]
    rw [Nat.mul_succ] at hnext
    omega
  have hk' : k' < p.size := by omega
  have hsum' : k % p.size + k' % p.size < p.size := by rwa [Nat.mod_eq_of_lt hk']
  unfold Scale.spell
  rw [if_pos hk']
  by_cases hk : k < p.size
  · rw [Nat.mod_eq_of_lt hk] at hsum
    rw [if_pos hsum, if_pos hk, h k k' ⟨hmod, hroom⟩ hpos hlt]
  · rw [if_neg (by omega), if_neg hk, Nat.add_div_eq_of_add_mod_lt hsum',
      Nat.add_mod_of_add_mod_lt hsum', Nat.div_eq_of_lt hk', Nat.mod_eq_of_lt hk', Nat.add_zero,
      if_neg (by omega)]
    by_cases hzero : k % p.size = 0
    · rw [hzero, if_pos rfl, Nat.zero_add]
      simp
    · have hroom' : HasRoom m (k % p.size) := by
        refine ⟨hrest, ?_⟩
        split
        · rw [if_pos ‹_›] at hroom
          rwa [Nat.mod_mod_of_dvd k p.hundred_dvd]
        · omega
      rw [if_neg hzero, h _ k' hroom' hpos hlt]
      simp

end Scale

/-- The sizes of the operands of the tens and of the powers of ten. -/
def rooms : List Nat :=
  [10, 100, 1000, 1000000]

theorem size_mem_rooms : ∀ p ∈ scales, p.size ∈ rooms := by
  decide

/-- Spelling is additive wherever an English word takes up a number behind it. -/
theorem additive_spell {m : Nat} (h : m ∈ rooms) : Additive m spell := by
  simp only [rooms, List.mem_cons, List.not_mem_nil, or_false] at h
  rcases h with rfl | rfl | rfl | rfl
  · have hhundreds := Scale.hundred.additive_spell_of_dvd additive_spellTens (by decide)
    have hthousands := Scale.thousand.additive_spell_of_dvd hhundreds (by decide)
    exact Scale.million.additive_spell_of_dvd hthousands (by decide)
  · have hthousands := Scale.thousand.additive_spell_of_dvd
      (Scale.hundred.additive_spell spellTens) (by decide)
    exact Scale.million.additive_spell_of_dvd hthousands (by decide)
  · exact Scale.million.additive_spell_of_dvd (Scale.thousand.additive_spell spellHundreds) (by decide)
  · exact Scale.million.additive_spell spellThousands

/-! ## Products -/

namespace Scale

variable {p : Scale} {lower : Nat → List Text}

theorem spell_of_lt {n : Nat} (h : n < p.size) : p.spell lower n = lower n :=
  if_pos h

theorem spell_mul {k : Nat} (hk : 0 < k) : p.spell lower (p.size * k) = lower k ++ [p.word] := by
  have hle : p.size ≤ p.size * k := Nat.le_mul_of_pos_right _ hk
  unfold spell
  rw [if_neg (by omega), Nat.mul_div_cancel_left _ p.size_pos, Nat.mul_mod_right, if_pos rfl]

end Scale

/-- The words of a multiple of a power of ten. -/
theorem spell_mul {p : Scale} (hp : p ∈ scales) {k : Nat} (hpos : 0 < k) (hk : k ≤ p.factor) :
    spell (p.size * k) = spell k ++ [p.word] := by
  have hthousands : ∀ n < 1000000, spell n = spellThousands n := fun n h => Scale.spell_of_lt h
  have hhundreds : ∀ n < 1000, spellThousands n = spellHundreds n := fun n h => Scale.spell_of_lt h
  have htens : ∀ n < 100, spellHundreds n = spellTens n := fun n h => Scale.spell_of_lt h
  simp only [scales, List.mem_cons, List.not_mem_nil, or_false] at hp
  -- There are three powers. What is less than the next one is spelled without it.
  rcases hp with rfl | rfl | rfl
  · have hk : k ≤ 9 := hk
    have hsize : Scale.hundred.size * k < 1000 := by
      show 100 * k < 1000
      omega
    rw [hthousands _ (by omega), hhundreds _ hsize, hthousands k (by omega), hhundreds k (by omega),
      htens k (by omega)]
    exact Scale.spell_mul hpos
  · have hk : k ≤ 999 := hk
    have hsize : Scale.thousand.size * k < 1000000 := by
      show 1000 * k < 1000000
      omega
    rw [hthousands _ hsize, hthousands k (by omega), hhundreds k (by omega)]
    exact Scale.spell_mul hpos
  · have hk : k ≤ 999999 := hk
    rw [hthousands k (by omega)]
    exact Scale.spell_mul hpos

end TextAnalysis.English
