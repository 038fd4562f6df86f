/-
# Members and values

The members of a union of positions, and the values of a map after a change.
-/
import Mathlib.Data.List.Sort
import TextAnalysis.Positions

namespace TextAnalysis

namespace Positions

theorem mem_foldl_insert {l : List Nat} {s : Positions} {x : Nat} :
    x ∈ l.foldl insert s ↔ x ∈ l ∨ x ∈ s := by
  induction l generalizing s with
  | nil => simp
  | cons n l ih =>
    rw [List.foldl_cons, ih, mem_insert, List.mem_cons]
    constructor
    · rintro (h | h | h)
      · exact .inl (.inr h)
      · exact .inl (.inl h)
      · exact .inr h
    · rintro ((h | h) | h)
      · exact .inr (.inl h)
      · exact .inl h
      · exact .inr (.inr h)

/-- A union has the members of both sets. -/
@[simp] theorem mem_union {s t : Positions} {x : Nat} : x ∈ s.union t ↔ x ∈ s ∨ x ∈ t := by
  unfold union
  rw [mem_foldl_insert, or_comm]
  exact Iff.rfl

/-- The positions of some things together. -/
theorem mem_foldl_union {α : Type} {f : α → Positions} {l : List α} {x : Nat} :
    x ∈ l.foldl (fun all a => all.union (f a)) empty ↔ ∃ a ∈ l, x ∈ f a := by
  have hfrom : ∀ start : Positions, x ∈ l.foldl (fun all a => all.union (f a)) start ↔ x ∈ start ∨ ∃ a ∈ l, x ∈ f a := by
    induction l with
    | nil => simp
    | cons a l ih =>
      intro start
      rw [List.foldl_cons, ih, mem_union, or_assoc, List.exists_mem_cons_iff]
  rw [hfrom, or_iff_right not_mem_empty]

@[simp] theorem mem_single {n x : Nat} : x ∈ single n ↔ x = n := by
  unfold single
  rw [mem_insert, or_iff_left not_mem_empty]

instance (s : Positions) (x : Nat) : Decidable (x ∈ s) :=
  inferInstanceAs (Decidable (x ∈ s.toList))

end Positions

namespace Numbered

variable {α : Type}

/-- After a value is put under a number, that value is found there, and elsewhere what was found before. -/
theorem find?_putNumbered (n k : Nat) (a : α) (l : List (Nat × α)) :
    (putNumbered n a l).find? (·.1 == k) = if k = n then some (n, a) else l.find? (·.1 == k) := by
  by_cases hk : k = n
  · subst hk
    rw [if_pos rfl]
    induction l with
    | nil => exact List.find?_cons_of_pos (beq_self_eq_true k)
    | cons e rest ih =>
      unfold putNumbered
      split
      · exact List.find?_cons_of_pos (beq_self_eq_true k)
      · split
        · rename_i hlt
          rw [List.find?_cons_of_neg (by simpa using Nat.ne_of_lt hlt), ih]
        · exact List.find?_cons_of_pos (beq_self_eq_true k)
  · have hn : ¬ (n == k) = true := by simpa using Ne.symm hk
    rw [if_neg hk]
    induction l with
    | nil => exact List.find?_cons_of_neg hn
    | cons e rest ih =>
      unfold putNumbered
      split
      · exact List.find?_cons_of_neg hn
      · split
        · rw [List.find?_cons, List.find?_cons, ih]
        · -- The entry that is replaced has the number `n`.
          rename_i hle hge
          have he : ¬ (e.1 == k) = true := by
            rw [Nat.le_antisymm (Nat.not_lt.1 hle) (Nat.not_lt.1 hge)]
            exact hn
          exact Eq.trans (List.find?_cons_of_neg hn) (Eq.symm (List.find?_cons_of_neg he))

/-- A value that is put under a number is found there, and what is found elsewhere stays. -/
theorem get?_put (v : Numbered α) (n k : Nat) (a : α) :
    (v.put n a).get? k = if k = n then some a else v.get? k := by
  unfold get? put
  dsimp only
  rw [find?_putNumbered]
  split <;> rfl

theorem find?_eq_some_iff {l : List (Nat × α)} (h : (l.map (·.1)).Pairwise (· < ·)) {k : Nat} {a : α} :
    l.find? (·.1 == k) = some (k, a) ↔ (k, a) ∈ l := by
  induction l with
  | nil => simp
  | cons e rest ih =>
    obtain ⟨m, b⟩ := e
    rw [List.map_cons, List.pairwise_cons] at h
    obtain ⟨hm, hrest⟩ := h
    rw [List.mem_cons, Prod.mk.injEq]
    by_cases hk : m = k
    · -- The numbers behind are greater, so no other entry has this one.
      subst hk
      have hnot : (m, a) ∉ rest := fun hmem => Nat.lt_irrefl m (hm m (List.mem_map_of_mem hmem))
      have hfound : ((m, b) :: rest).find? (·.1 == m) = some (m, b) := List.find?_cons_of_pos (beq_self_eq_true m)
      simp [hfound, hnot, eq_comm]
    · rw [List.find?_cons_of_neg (by simpa using hk), ih hrest, or_iff_right fun heq => hk heq.1.symm]

/-- What is found under a number is the value that stands there. -/
theorem get?_eq_some_iff {v : Numbered α} {k : Nat} {a : α} : v.get? k = some a ↔ (k, a) ∈ v.entries := by
  rw [← find?_eq_some_iff v.ascending, get?, Option.map_eq_some_iff]
  constructor
  · rintro ⟨e, he, rfl⟩
    have hkey : e.1 = k := by simpa using List.find?_some he
    rw [he, ← hkey]
  · exact fun h => ⟨_, h, rfl⟩

theorem mem_numbers_iff {v : Numbered α} {k : Nat} : k ∈ v.numbers ↔ ∃ a, v.get? k = some a := by
  simp only [get?_eq_some_iff, numbers, List.mem_map, Prod.exists, exists_and_right, exists_eq_right]

/-- The values are what is found under the numbers one after the other. -/
theorem map_some_values (v : Numbered α) : v.values.map some = v.numbers.map v.get? := by
  unfold values numbers
  rw [List.map_map, List.map_map]
  exact List.map_congr_left fun e he => (get?_eq_some_iff.2 he).symm

/-- Where the same is found under every number, the values are numbered in the same way. -/
theorem ext_get? {v w : Numbered α} (h : ∀ k, v.get? k = w.get? k) : v = w := by
  have hirrefl : Std.Irrefl fun e f : Nat × α => e.1 < f.1 := ⟨fun e => Nat.lt_irrefl e.1⟩
  have hentries : v.entries = w.entries :=
    (List.pairwise_map.1 v.ascending).eq_of_mem_iff (List.pairwise_map.1 w.ascending) fun e => by
      rw [← get?_eq_some_iff, h, get?_eq_some_iff]
  cases v
  cases w
  cases hentries
  rfl

end Numbered

end TextAnalysis
