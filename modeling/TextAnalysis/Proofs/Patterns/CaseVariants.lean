/-
# Equality up to case

The table of folded characters moves every character to one that it does not move any further. So the variants of a
character are the characters that are folded to the same one, and two characters are variants of each other or neither
is one of the other.
-/
import Mathlib.Data.List.Chain
import TextAnalysis.Pattern.CharSet.Ranges

namespace TextAnalysis

/-! ## Members of ranges -/

/-- The members of a range are the code points that it contains. -/
theorem CharRange.mem_members_iff {r : CharRange} {n : Nat} : n ∈ r.members ↔ r.contains n = true := by
  have hcontains : r.contains n = true ↔ r.first ≤ n ∧ n ≤ r.last ∧ (n - r.first) % r.stride = 0 := by
    simp [contains, and_assoc]
  rw [hcontains]
  unfold members
  split
  · rename_i hempty
    simp only [List.not_mem_nil, false_iff]
    omega
  · rename_i hsome
    simp only [List.mem_map, List.mem_range]
    constructor
    · -- The last step that fits does not go beyond the end of the range.
      rintro ⟨i, hi, rfl⟩
      have hle : r.stride * i ≤ r.last - r.first :=
        Nat.le_trans (Nat.mul_le_mul_left _ (Nat.le_of_lt_succ hi)) (Nat.mul_div_le _ _)
      refine ⟨Nat.le_add_right _ _, by omega, ?_⟩
      rw [Nat.add_sub_cancel_left, Nat.mul_mod_right]
    · rintro ⟨hfirst, hlast, hmod⟩
      refine ⟨(n - r.first) / r.stride, Nat.lt_succ_of_le (Nat.div_le_div_right (by omega)), ?_⟩
      have hdiv := Nat.mod_add_div (n - r.first) r.stride
      omega

namespace CaseShift

/-- A table moves every character by one entry only, to a character that it does not move. -/
structure Consistent (table : List CaseShift) : Prop where
  unique : ∀ s ∈ table, ∀ t ∈ table, ∀ n, s.range.contains n = true → t.range.contains n = true → s = t
  valid : ∀ s ∈ table, ∀ n, s.range.contains n = true →
    0 < n ∧ n.isValidChar ∧ 0 ≤ (n : Int) + s.offset ∧ ((n : Int) + s.offset).toNat.isValidChar
  fixed : ∀ s ∈ table, ∀ n, s.range.contains n = true → ∀ t ∈ table,
    ¬ t.range.contains ((n : Int) + s.offset).toNat = true

/-! ## The table of folded characters -/

/-- A number with a bit for every member of a list. -/
def bits (l : List Nat) : Nat :=
  l.foldr (fun n mask => mask ||| 1 <<< n) 0

theorem testBit_bits {l : List Nat} {n : Nat} : (bits l).testBit n = true ↔ n ∈ l := by
  induction l with
  | nil => simp [bits]
  | cons m l ih =>
    show (bits l ||| 1 <<< m).testBit n = true ↔ _
    rw [Nat.testBit_or, Bool.or_eq_true, ih, Nat.one_shiftLeft, Nat.testBit_two_pow, decide_eq_true_iff, List.mem_cons,
      or_comm, eq_comm]

theorem disjoint_of_bits {l l' : List Nat} (h : bits l &&& bits l' = 0) {n : Nat} (hn : n ∈ l) : n ∉ l' := by
  intro hn'
  have hbit := congrArg (Nat.testBit · n) h
  simp only [Nat.testBit_and, testBit_bits.2 hn, testBit_bits.2 hn', Nat.zero_testBit] at hbit
  cases hbit

/-- The range of an entry comes before that of another one. -/
def Before (s t : CaseShift) : Prop :=
  s.range.last < t.range.first ∧ t.range.first ≤ t.range.last
  deriving Decidable

instance : IsTrans CaseShift Before :=
  ⟨fun _ _ _ h h' => ⟨Nat.lt_trans (Nat.lt_of_lt_of_le h.1 h.2) h'.1, h'.2⟩⟩

set_option maxRecDepth 10000 in
theorem toFolded_ascending : toFolded.IsChain Before := by
  decide +kernel

set_option maxRecDepth 10000 in
theorem toFolded_valid : ∀ s ∈ toFolded, ∀ n ∈ s.range.members,
    0 < n ∧ n.isValidChar ∧ 0 ≤ (n : Int) + s.offset ∧ ((n : Int) + s.offset).toNat.isValidChar := by
  decide +kernel

/-- The code points that are moved. -/
def movedCodes : List Nat :=
  toFolded.flatMap (·.range.members)

/-- The code points to which others are moved. -/
def foldedCodes : List Nat :=
  toFolded.flatMap fun s => s.range.members.map fun n : Nat => ((n : Int) + s.offset).toNat

theorem toFolded_fixed : bits foldedCodes &&& bits movedCodes = 0 := by
  decide +kernel

theorem consistent_toFolded : Consistent toFolded where
  unique := by
    have : Std.Symm fun s t : CaseShift => ∀ n, s.range.contains n = true → t.range.contains n = true → s = t :=
      ⟨fun _ _ h n hs ht => (h n ht hs).symm⟩
    refine List.Pairwise.forall_of_forall (fun _ _ _ _ _ => rfl) ?_
    refine (List.isChain_iff_pairwise.1 toFolded_ascending).imp fun h n hs ht => ?_
    simp only [CharRange.contains, Bool.and_eq_true, decide_eq_true_iff] at hs ht
    exact absurd h.1 (by omega)
  valid s hs n hn := toFolded_valid s hs n (CharRange.mem_members_iff.2 hn)
  fixed s hs n hn t ht hn' := by
    have hfolded : ((n : Int) + s.offset).toNat ∈ foldedCodes :=
      List.mem_flatMap.2 ⟨s, hs, List.mem_map.2 ⟨n, CharRange.mem_members_iff.2 hn, rfl⟩⟩
    have hmoved : ((n : Int) + s.offset).toNat ∈ movedCodes :=
      List.mem_flatMap.2 ⟨t, ht, CharRange.mem_members_iff.2 hn'⟩
    exact disjoint_of_bits toFolded_fixed hfolded hmoved

/-! ## Moving -/

theorem toNat_ofNat {n : Nat} (h : n.isValidChar) : (Char.ofNat n).toNat = n := by
  rw [Char.ofNat, dif_pos h]
  rfl

section

variable {table : List CaseShift} (h : Consistent table) {c v : Char} {s : CaseShift}

include h

/-- What an entry does to a character that it contains. -/
theorem Consistent.toNat_move (hs : s ∈ table) (hc : s.range.contains c.toNat = true) :
    ((move table c).toNat : Int) = c.toNat + s.offset := by
  obtain ⟨-, -, hnonneg, hvalid⟩ := h.valid s hs _ hc
  cases hfind : table.find? (·.range.contains c.toNat) with
  | none => exact absurd hc (List.find?_eq_none.1 hfind s hs)
  | some t =>
    obtain rfl := h.unique t (List.mem_of_find?_eq_some hfind) s hs _ (by simpa using List.find?_some hfind) hc
    unfold move
    rw [hfind]
    dsimp only
    rw [toNat_ofNat hvalid, Int.toNat_of_nonneg hnonneg]

end

theorem move_of_not {table : List CaseShift} {c : Char} (h : ∀ s ∈ table, ¬ s.range.contains c.toNat = true) :
    move table c = c := by
  unfold move
  rw [List.find?_eq_none.2 h]

section

variable {table : List CaseShift} (h : Consistent table) {c v : Char}

include h

/-- Where a character is moved to it stays. -/
theorem Consistent.move_move : move table (move table c) = move table c := by
  by_cases hc : ∃ s ∈ table, s.range.contains c.toNat = true
  · obtain ⟨s, hs, hc⟩ := hc
    refine move_of_not fun t ht hmoved => h.fixed s hs _ hc t ht ?_
    rwa [← h.toNat_move hs hc, Int.toNat_natCast]
  · push Not at hc
    rw [move_of_not hc, move_of_not hc]

/-- The sources of a character are the characters that are moved there by an entry. -/
theorem Consistent.mem_sources_iff : v ∈ sources table c ↔
    move table v = c ∧ ∃ s ∈ table, s.range.contains v.toNat = true := by
  unfold sources
  rw [List.mem_filterMap]
  constructor
  · rintro ⟨s, hs, hv⟩
    dsimp only at hv
    split at hv
    · rename_i hcontains
      obtain ⟨hpos, hvalid, -, -⟩ := h.valid s hs _ hcontains
      obtain rfl := Option.some.inj hv
      rw [← toNat_ofNat hvalid] at hcontains
      refine ⟨Char.toNat_inj.1 (Int.ofNat_inj.1 ?_), s, hs, hcontains⟩
      rw [h.toNat_move hs hcontains, toNat_ofNat hvalid]
      omega
    · cases hv
  · rintro ⟨rfl, s, hs, hv⟩
    refine ⟨s, hs, ?_⟩
    -- Going back by the offset undoes the move.
    have hback : ((move table v).toNat - s.offset).toNat = v.toNat := by
      rw [h.toNat_move hs hv]
      omega
    dsimp only
    rw [hback, if_pos hv, Char.ofNat_toNat]

/-- A character or one of the sources of where it is moved to: a character that is moved to the same one. -/
theorem Consistent.mem_class_iff : v ∈ move table c :: sources table (move table c) ↔
    move table v = move table c := by
  rw [List.mem_cons, h.mem_sources_iff]
  constructor
  · rintro (rfl | ⟨hv, -⟩)
    · exact h.move_move
    · exact hv
  · intro hv
    by_cases hmoved : ∃ s ∈ table, s.range.contains v.toNat = true
    · exact .inr ⟨hv, hmoved⟩
    · push Not at hmoved
      rw [move_of_not hmoved] at hv
      exact .inl hv

/-- Two characters that are moved to the same one are members of the table. -/
theorem Consistent.mem_members (hv : move table v = move table c) (hne : v ≠ c) : v.toNat ∈ members table := by
  unfold members
  simp only [List.mem_flatMap]
  by_cases hmoved : ∃ s ∈ table, s.range.contains v.toNat = true
  · obtain ⟨s, hs, hcontains⟩ := hmoved
    exact ⟨s, hs, v.toNat, CharRange.mem_members_iff.2 hcontains, List.mem_cons_self ..⟩
  · push Not at hmoved
    rw [move_of_not hmoved] at hv
    by_cases hmoved' : ∃ s ∈ table, s.range.contains c.toNat = true
    · obtain ⟨s, hs, hcontains⟩ := hmoved'
      refine ⟨s, hs, c.toNat, CharRange.mem_members_iff.2 hcontains, List.mem_cons_of_mem _ ?_⟩
      rw [← h.toNat_move hs hcontains, ← hv, Int.toNat_natCast]
      exact List.mem_singleton.2 rfl
    · push Not at hmoved'
      rw [move_of_not hmoved'] at hv
      exact absurd hv hne

end

end CaseShift

namespace Text

/-- The variants of a character are those that are folded to the same one. -/
theorem mem_caseVariants_iff {c v : Char} : v ∈ caseVariants c ↔ foldChar v = foldChar c :=
  CaseShift.consistent_toFolded.mem_class_iff

theorem mem_caseVariants_comm {c v : Char} : v ∈ caseVariants c ↔ c ∈ caseVariants v := by
  rw [mem_caseVariants_iff, mem_caseVariants_iff, eq_comm]

/-- A character with a variant other than itself is one of those with a case. -/
theorem mem_casedCharacters {c v : Char} (h : v ∈ caseVariants c) (hne : v ≠ c) : v ∈ CharSet.casedCharacters :=
  List.mem_map.2 ⟨v.toNat, CaseShift.consistent_toFolded.mem_members (mem_caseVariants_iff.1 h) hne, Char.ofNat_toNat v⟩

end Text

end TextAnalysis
