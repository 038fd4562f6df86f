/-
# Positions and numbered values

Finite sets of positions and finite maps from numbers, both held in ascending order. Two sets with the
same members are equal.
-/

namespace TextAnalysis

/-! ## Ascending lists -/

/-- Inserts a number into an ascending list, once. -/
def insertAscending (n : Nat) : List Nat → List Nat
  | [] => [n]
  | m :: rest =>
    if n < m then n :: m :: rest else if m < n then m :: insertAscending n rest else m :: rest

theorem mem_insertAscending {n x : Nat} {l : List Nat} :
    x ∈ insertAscending n l ↔ x = n ∨ x ∈ l := by
  induction l with
  | nil => simp [insertAscending]
  | cons m rest ih =>
    simp only [insertAscending]
    split
    · simp
    · split
      · simp only [List.mem_cons, ih]
        exact ⟨fun h => h.elim (fun h => .inr (.inl h)) (fun h => h.elim .inl (fun h => .inr (.inr h))),
          fun h => h.elim (fun h => .inr (.inl h)) (fun h => h.elim .inl (fun h => .inr (.inr h)))⟩
      · have : n = m := by omega
        simp [this]

theorem insertAscending_ascending {n : Nat} {l : List Nat} (h : l.Pairwise (· < ·)) :
    (insertAscending n l).Pairwise (· < ·) := by
  induction l with
  | nil => simp [insertAscending]
  | cons m rest ih =>
    obtain ⟨hm, hrest⟩ := List.pairwise_cons.1 h
    simp only [insertAscending]
    split
    · rename_i hlt
      refine List.pairwise_cons.2 ⟨fun x hx => ?_, h⟩
      rcases List.mem_cons.1 hx with rfl | hx
      · exact hlt
      · exact Nat.lt_trans hlt (hm x hx)
    · split
      · rename_i hlt
        refine List.pairwise_cons.2 ⟨fun x hx => ?_, ih hrest⟩
        rcases mem_insertAscending.1 hx with rfl | hx
        · exact hlt
        · exact hm x hx
      · exact h

/-! ## Positions -/

/-- A finite set of positions, in ascending order. -/
structure Positions where
  toList : List Nat
  ascending : toList.Pairwise (· < ·)
  deriving DecidableEq

namespace Positions

/-- No position. -/
def empty : Positions :=
  ⟨[], .nil⟩

/-- Adds a position. -/
def insert (s : Positions) (n : Nat) : Positions :=
  ⟨insertAscending n s.toList, insertAscending_ascending s.ascending⟩

/-- The positions in a list. -/
def ofList (l : List Nat) : Positions :=
  l.foldl insert empty

/-- One position. -/
def single (n : Nat) : Positions :=
  empty.insert n

/-- The positions of two sets. -/
def union (s t : Positions) : Positions :=
  t.toList.foldl insert s

/-- Whether a position is in a set. -/
def contains (s : Positions) (n : Nat) : Bool :=
  s.toList.contains n

/-- Every position moved by the same distance. -/
def shift (s : Positions) (distance : Nat) : Positions :=
  ofList (s.toList.map (· + distance))

instance : EmptyCollection Positions := ⟨empty⟩

instance : Membership Nat Positions := ⟨fun s n => n ∈ s.toList⟩

@[simp] theorem mem_insert {s : Positions} {n x : Nat} : x ∈ s.insert n ↔ x = n ∨ x ∈ s :=
  mem_insertAscending

@[simp] theorem not_mem_empty {x : Nat} : ¬ x ∈ empty := by
  intro h
  cases h

end Positions

/-! ## Numbered values -/

/-- Puts a value under a number into an ascending list of numbered values, in place of one that is
already there. -/
def putNumbered {α : Type} (n : Nat) (a : α) : List (Nat × α) → List (Nat × α)
  | [] => [(n, a)]
  | (m, b) :: rest =>
    if n < m then (n, a) :: (m, b) :: rest
    else if m < n then (m, b) :: putNumbered n a rest
    else (n, a) :: rest

theorem map_fst_putNumbered {α : Type} (n : Nat) (a : α) (l : List (Nat × α)) :
    (putNumbered n a l).map (·.1) = insertAscending n (l.map (·.1)) := by
  induction l with
  | nil => rfl
  | cons e rest ih =>
    obtain ⟨m, b⟩ := e
    simp only [putNumbered, insertAscending, List.map_cons]
    split
    · rfl
    · split
      · simp [ih]
      · have : n = m := by omega
        simp [this]

/-- Values under numbers, in ascending order of the numbers. -/
structure Numbered (α : Type) where
  entries : List (Nat × α)
  ascending : (entries.map (·.1)).Pairwise (· < ·)
  deriving DecidableEq

namespace Numbered

variable {α : Type}

/-- No values. -/
def empty : Numbered α :=
  ⟨[], .nil⟩

/-- Puts a value under a number; the value that was there is lost. -/
def put (v : Numbered α) (n : Nat) (a : α) : Numbered α :=
  ⟨putNumbered n a v.entries, by
    rw [map_fst_putNumbered]
    exact insertAscending_ascending v.ascending⟩

/-- The value under a number. -/
def get? (v : Numbered α) (n : Nat) : Option α :=
  (v.entries.find? (·.1 == n)).map (·.2)

/-- The numbers with a value, in ascending order. -/
def numbers (v : Numbered α) : List Nat :=
  v.entries.map (·.1)

/-- The values, in ascending order of their numbers. -/
def values (v : Numbered α) : List α :=
  v.entries.map (·.2)

end Numbered

end TextAnalysis
