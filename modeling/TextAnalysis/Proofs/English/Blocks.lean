/-
# Blocks of words

Whatever words are merged, every word of the phrase is a block of words that spells a number, or a single word that
still waits for the number before it. A block that takes up another one has room for it, so it spells the sum.
-/
import TextAnalysis.Proofs.English.Canonical
import TextAnalysis.Proofs.English.Powers

namespace TextAnalysis.English

open Phrase

/-! ## Blocks -/

/-- Words that spell a number, once teens are fused, with the value that they have become. An operand on the right
takes up numbers for which there is room only. -/
structure Block (ws : List Text) (n : Numeral) (k : Nat) : Prop where
  stands : Stands k n
  lt : k < 10 ^ 12
  words : fuseTeens ws = spell k
  ne_nil : ws ≠ []
  head : ws.head? ≠ some teenWord
  right : ∀ o ∈ n.right, ∃ m ∈ rooms, o = ⟨.add, 1, (m : Int) - 1⟩ ∧ HasRoom m k

/-- A single word that waits for the number before it: a power of ten, or the ending of the teens. -/
inductive Pending : List Text → Numeral → Prop
  | power {p : Scale} {n : Numeral} (hp : p ∈ scales) (hn : p.Waits n)
      (hright : n.right = none ∨ n.right = some p.addend) : Pending [p.word] n
  | teen : Pending [teenWord] { kind := .modifier, value := 10, left := some ⟨.add, 3, 9⟩ }

/-- Words and their value are a block or wait for a number. -/
def Part (ws : List Text) (n : Numeral) : Prop :=
  (∃ k, Block ws n k) ∨ Pending ws n

namespace Pending

variable {ws : List Text} {n : Numeral}

/-- What waits takes up smaller numbers than itself, and is ten at least. -/
theorem exists_operand (h : Pending ws n) :
    ∃ o, n.left = some o ∧ 1 ≤ o.low ∧ o.high < n.value.natAbs ∧ 10 ≤ n.value.natAbs := by
  cases h with
  | @power p n hp hn hright =>
    have hlt := p.factor_lt
    have hsize := p.hundred_le_size
    refine ⟨p.multiplier, hn.left, Int.le_refl 1, ?_, ?_⟩
    · rw [hn.value]
      show (p.factor : Int) < ((p.size : Int).natAbs : Int)
      omega
    · rw [hn.value]
      omega
  | teen => exact ⟨_, rfl, by decide, by decide, by decide⟩

theorem natAbs_of_isModifier (h : Pending ws n) (hmod : n.isModifier = true) : n.value.natAbs = 10 := by
  cases h with
  | power hp hn =>
    rw [hn.number] at hmod
    cases hmod
  | teen => rfl

end Pending

namespace Part

variable {ws : List Text} {n : Numeral}

theorem exists_block (h : Part ws n) (hleft : n.left = none) : ∃ k, Block ws n k := by
  rcases h with h | h
  · exact h
  · obtain ⟨o, ho, -⟩ := h.exists_operand
    rw [hleft] at ho
    cases ho

theorem pending (h : Part ws n) (hleft : n.left ≠ none) : Pending ws n := by
  rcases h with ⟨k, h⟩ | h
  · exact absurd h.stands.left hleft
  · exact h

/-- A modifier waits for a number. -/
theorem pending_of_isModifier (h : Part ws n) (hmod : n.isModifier = true) : Pending ws n := by
  rcases h with ⟨k, h⟩ | h
  · rw [h.stands.number] at hmod
    cases hmod
  · exact h

end Part

/-! ## Merging blocks -/

namespace Block

variable {ws ws' : List Text} {a b : Numeral} {k k' : Nat}

theorem head_append (h : Block ws a k) (ys : List Text) : (ws ++ ys).head? ≠ some teenWord := by
  cases ws with
  | nil => exact absurd rfl h.ne_nil
  | cons w ws => exact h.head

/-- A power of ten multiplies a block. -/
theorem multiply (h : Block ws a k) {p : Scale} (hp : p ∈ scales)
    (hright : b.right = none ∨ b.right = some p.addend) (hpos : 0 < k) (hk : k ≤ p.factor) {x : Int}
    (hx : x = (p.size * k : Nat)) : Block (ws ++ [p.word]) (joinedValue a b x) (p.size * k) where
  stands := h.stands.joined hx
  lt := Nat.lt_of_lt_of_le (Nat.mul_lt_mul_of_pos_left (Nat.lt_succ_of_le hk) p.size_pos) p.bounded
  words := by
    -- No power of ten is the ending of the teens, so nothing is fused across the two.
    have hword : [p.word].head? ≠ some teenWord := fun hword =>
      ne_teenWord_of_mem_scales p.word (List.mem_map_of_mem hp) (Option.some.inj hword)
    rw [fuseTeens_append hword, h.words, spell_mul hp hpos hk]
    rfl
  ne_nil := by simp
  head := h.head_append _
  right o ho := by
    have ho : o ∈ b.right := ho
    rcases hright with hright | hright
    · rw [hright] at ho
      cases ho
    · rw [hright, Option.mem_some_iff] at ho
      refine ⟨p.size, size_mem_rooms p hp, ho.symm, Nat.mul_mod_right _ _, ?_⟩
      have hsize := p.hundred_le_size
      rw [if_neg (by omega)]
      exact Nat.mul_pos p.size_pos hpos

/-- The ending of the teens adds ten to a block. -/
theorem addTeen (h : Block ws a k) (hb : b.right = none) (hlow : 3 ≤ k) (hhigh : k ≤ 9) {x : Int}
    (hx : x = (10 + k : Nat)) : Block (ws ++ [teenWord]) (joinedValue a b x) (10 + k) where
  stands := h.stands.joined hx
  lt := by omega
  words := fuseTeens_append_teen hlow hhigh h.words
  ne_nil := by simp
  head := h.head_append _
  right o ho := by
    have ho : o ∈ b.right := ho
    rw [hb] at ho
    cases ho

/-- Where there is room for a number that has room itself, the sum has that room. -/
theorem hasRoom_add {m m' : Nat} (hm : m ∈ rooms) (hm' : m' ∈ rooms) (hk : HasRoom m k)
    (hk' : HasRoom m' k') (hpos : 0 < k') (hlt : k' < m) : HasRoom m' (k + k') := by
  obtain ⟨hmod, hroom⟩ := hk
  obtain ⟨hmod', hroom'⟩ := hk'
  simp only [rooms, List.mem_cons, List.not_mem_nil, or_false] at hm hm'
  unfold HasRoom
  rcases hm with rfl | rfl | rfl | rfl <;> rcases hm' with rfl | rfl | rfl | rfl <;>
    simp at hroom hroom' ⊢ <;> omega

/-- A block takes up another one behind it, if there is room. -/
theorem add (h : Block ws a k) (h' : Block ws' b k') {m : Nat} (hm : m ∈ rooms) (hroom : HasRoom m k)
    (hpos : 0 < k') (hlt : k' < m) {x : Int} (hx : x = (k + k' : Nat)) :
    Block (ws ++ ws') (joinedValue a b x) (k + k') where
  stands := h.stands.joined hx
  lt := by
    have hk := h.lt
    obtain ⟨hmod, -⟩ := hroom
    simp only [rooms, List.mem_cons, List.not_mem_nil, or_false] at hm
    rcases hm with rfl | rfl | rfl | rfl <;> omega
  words := by
    rw [fuseTeens_append h'.head, h.words, h'.words, additive_spell hm k k' hroom hpos hlt]
  ne_nil := by simp [h.ne_nil]
  head := h.head_append _
  right o ho := by
    obtain ⟨m', hm', rfl, hroom'⟩ := h'.right o ho
    exact ⟨m', hm', rfl, hasRoom_add hm hm' hroom hroom' hpos hlt⟩

end Block

end TextAnalysis.English
