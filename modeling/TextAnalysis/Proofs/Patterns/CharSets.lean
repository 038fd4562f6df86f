/-
# Sets and their ranges

A set of characters is written out as ranges that ascend and do not meet. A character is in the set exactly if it is in
one of these ranges, so sets that are written out alike have the same characters.
-/
import TextAnalysis.Proofs.Patterns.CaseVariants

namespace TextAnalysis.CharSet

/-! ## Ranges of characters -/

/-- A character is in one of several ranges of code points. -/
def Covers (rs : List (Nat × Nat)) (c : Char) : Prop :=
  ∃ r ∈ rs, r.1 ≤ c.toNat ∧ c.toNat ≤ r.2

/-- No character lies between the bounds of a range in the wrong order. -/
def Proper (r : Nat × Nat) : Prop :=
  ∀ c : Char, r.1 ≤ c.toNat ∨ c.toNat ≤ r.2

/-- Ranges follow each other, and no character is in two of them. -/
structure Ascending (rs : List (Nat × Nat)) : Prop where
  proper : ∀ r ∈ rs, Proper r
  apart : rs.Pairwise fun r s => ∀ c : Char, s.1 ≤ c.toNat → r.2 < c.toNat

variable {rs ss : List (Nat × Nat)} {c : Char}

theorem proper_of_le {r : Nat × Nat} (h : r.1 ≤ r.2) : Proper r :=
  fun c => by omega

theorem not_covers_nil : ¬ Covers [] c :=
  fun ⟨_, h, _⟩ => nomatch h

theorem covers_cons {r : Nat × Nat} : Covers (r :: rs) c ↔ (r.1 ≤ c.toNat ∧ c.toNat ≤ r.2) ∨ Covers rs c := by
  simp [Covers]

theorem covers_append : Covers (rs ++ ss) c ↔ Covers rs c ∨ Covers ss c := by
  simp only [Covers, List.mem_append, or_and_right, exists_or]

theorem Covers.perm (h : rs.Perm ss) : Covers rs c ↔ Covers ss c :=
  exists_congr fun _ => and_congr_left fun _ => h.mem_iff

/-! ## Joining -/

/-- Ascending ranges are joined to ranges that follow each other and cover the same characters. -/
theorem joinFrom_spec {first last : Nat} {rest : List (Nat × Nat)} (hsorted : rest.Pairwise fun r s => r.1 ≤ s.1)
    (hfirst : ∀ r ∈ rest, first ≤ r.1) (hproper : ∀ r ∈ (first, last) :: rest, Proper r) :
    (∀ c, Covers (joinFrom first last rest) c ↔ Covers ((first, last) :: rest) c) ∧
      Ascending (joinFrom first last rest) ∧ ∀ r ∈ joinFrom first last rest, first ≤ r.1 := by
  induction rest generalizing first last with
  | nil =>
    refine ⟨fun c => Iff.rfl, ⟨hproper, List.pairwise_singleton ..⟩, ?_⟩
    exact List.forall_mem_singleton.2 (Nat.le_refl first)
  | cons r rest ih =>
    obtain ⟨a, b⟩ := r
    obtain ⟨ha, hsorted⟩ := List.pairwise_cons.1 hsorted
    obtain ⟨hfirstA, hfirst⟩ := List.forall_mem_cons.1 hfirst
    obtain ⟨hproperFirst, hproperRest⟩ := List.forall_mem_cons.1 hproper
    unfold joinFrom
    split
    · -- The next range begins within the current one or right behind it.
      rename_i hmeets
      have hproperJoined : Proper (first, max last b) := fun c => by
        have h : first ≤ c.toNat ∨ c.toNat ≤ last := hproperFirst c
        show first ≤ c.toNat ∨ c.toNat ≤ max last b
        omega
      obtain ⟨hcovers, hascending, hbound⟩ := ih hsorted hfirst
        (List.forall_mem_cons.2 ⟨hproperJoined, fun r hr => hproperRest r (List.mem_cons_of_mem _ hr)⟩)
      refine ⟨fun c => ?_, hascending, hbound⟩
      rw [hcovers, covers_cons, covers_cons, covers_cons, ← or_assoc]
      refine or_congr_left ?_
      dsimp only at *
      omega
    · -- The current range is finished, and the later ones begin behind it.
      rename_i hgap
      obtain ⟨hcovers, hascending, hbound⟩ := ih hsorted ha hproperRest
      refine ⟨fun c => ?_, ⟨List.forall_mem_cons.2 ⟨hproperFirst, hascending.proper⟩, ?_⟩, ?_⟩
      · rw [covers_cons, hcovers, ← covers_cons]
      · refine List.pairwise_cons.2 ⟨fun r hr c hc => ?_, hascending.apart⟩
        have hle := hbound r hr
        dsimp only
        omega
      · refine List.forall_mem_cons.2 ⟨Nat.le_refl first, fun r hr => ?_⟩
        exact Nat.le_trans hfirstA (hbound r hr)

/-- Ranges in any order are joined to ranges that follow each other and cover the same characters. -/
theorem joined_spec (hproper : ∀ r ∈ rs, Proper r) : (∀ c, Covers (joined rs) c ↔ Covers rs c) ∧
    Ascending (joined rs) := by
  have hperm := List.mergeSort_perm rs fun r s => decide (r.1 ≤ s.1)
  have hsorted : (rs.mergeSort fun r s => decide (r.1 ≤ s.1)).Pairwise fun r s => r.1 ≤ s.1 := by
    refine (List.pairwise_mergeSort ?_ ?_ rs).imp of_decide_eq_true
    · intro r s t h h'
      exact decide_eq_true (Nat.le_trans (of_decide_eq_true h) (of_decide_eq_true h'))
    · intro r s
      simp only [Bool.or_eq_true, decide_eq_true_iff]
      omega
  unfold joined
  cases hlist : rs.mergeSort fun r s => decide (r.1 ≤ s.1) with
  | nil =>
    rw [hlist] at hperm
    exact ⟨fun c => Covers.perm hperm, ⟨by simp, .nil⟩⟩
  | cons r rest =>
    rw [hlist] at hperm hsorted
    obtain ⟨hle, hrest⟩ := List.pairwise_cons.1 hsorted
    obtain ⟨hcovers, hascending, -⟩ := joinFrom_spec hrest hle fun s hs => hproper s (hperm.mem_iff.1 hs)
    exact ⟨fun c => (hcovers c).trans (Covers.perm hperm), hascending⟩

/-! ## Gaps -/

theorem toNat_lt (c : Char) : c.toNat < 0xD800 ∨ 0xDFFF < c.toNat ∧ c.toNat < 0x110000 :=
  c.valid

theorem codeAfter_le_iff {n : Nat} : codeAfter n ≤ c.toNat ↔ n < c.toNat := by
  have hc := toNat_lt c
  unfold codeAfter
  split <;> omega

theorem le_codeBefore_iff {n : Nat} (h : 0 < n) : c.toNat ≤ codeBefore n ↔ c.toNat < n := by
  have hc := toNat_lt c
  unfold codeBefore
  split <;> omega

/-- The gaps from a code point on follow each other and cover the characters from there on that are not covered. -/
theorem gapsFrom_spec {start : Nat} (h : Ascending rs)
    (hstart : ∀ r ∈ rs, ∀ c : Char, r.2 < c.toNat → start ≤ c.toNat) :
    (∀ c, Covers (gapsFrom start rs) c ↔ start ≤ c.toNat ∧ ¬ Covers rs c) ∧ Ascending (gapsFrom start rs) ∧
      ∀ r ∈ gapsFrom start rs, ∀ c : Char, r.1 ≤ c.toNat → start ≤ c.toNat := by
  induction rs generalizing start with
  | nil =>
    unfold gapsFrom
    split
    · rename_i hle
      refine ⟨fun c => ?_, ⟨?_, List.pairwise_singleton ..⟩, ?_⟩
      · have hc := toNat_lt c
        rw [covers_cons]
        simp only [not_covers_nil, not_false_iff, or_false, and_true]
        omega
      · exact List.forall_mem_singleton.2 (proper_of_le hle)
      · exact List.forall_mem_singleton.2 fun c hc => hc
    · refine ⟨fun c => ?_, ⟨by simp, .nil⟩, by simp⟩
      have hc := toNat_lt c
      simp only [not_covers_nil, not_false_iff, and_true, false_iff]
      omega
  | cons r rest ih =>
    obtain ⟨a, b⟩ := r
    obtain ⟨hproper, hproperRest⟩ := List.forall_mem_cons.1 h.proper
    obtain ⟨hapart, hapartRest⟩ := List.pairwise_cons.1 h.apart
    have hnext : ∀ r ∈ rest, ∀ c : Char, r.2 < c.toNat → codeAfter b ≤ c.toNat := by
      intro r hr c hc
      rw [codeAfter_le_iff]
      rcases hproperRest r hr c with hle | hle
      · exact hapart r hr c hle
      · omega
    obtain ⟨hcovers, hascending, hbound⟩ := ih ⟨hproperRest, hapartRest⟩ hnext
    simp only [codeAfter_le_iff] at hcovers hbound
    have hbehind : ∀ c : Char, Covers rest c → b < c.toNat := fun c ⟨r, hr, hle, _⟩ => hapart r hr c hle
    unfold gapsFrom
    split
    · -- There is a gap in front of the range.
      rename_i hgap
      have hbefore : ∀ c : Char, c.toNat ≤ codeBefore a ↔ c.toNat < a := fun c => le_codeBefore_iff (by omega)
      refine ⟨fun c => ?_, ⟨List.forall_mem_cons.2 ⟨fun c => ?_, hascending.proper⟩, ?_⟩, ?_⟩
      · have hin := hproper c
        have hout := hstart (a, b) (List.mem_cons_self ..) c
        have hrest := hbehind c
        rw [covers_cons, covers_cons, hcovers, hbefore]
        dsimp only at *
        grind
      · dsimp only
        rw [hbefore]
        omega
      · refine List.pairwise_cons.2 ⟨fun r hr c hc => ?_, hascending.apart⟩
        have hin := hproper c
        have hout := hbound r hr c hc
        have hnot := hbefore c
        dsimp only at *
        omega
      · refine List.forall_mem_cons.2 ⟨fun c hc => hc, fun r hr c hc => ?_⟩
        exact hstart (a, b) (List.mem_cons_self ..) c (hbound r hr c hc)
    · -- The range begins where the search for gaps stands, or before.
      rename_i hle
      have hout : ∀ c : Char, b < c.toNat → start ≤ c.toNat := hstart (a, b) (List.mem_cons_self ..)
      refine ⟨fun c => ?_, hascending, fun r hr c hc => hout c (hbound r hr c hc)⟩
      have hin := hproper c
      have hbound := hout c
      rw [hcovers, covers_cons]
      dsimp only at *
      grind

/-- The gaps between ranges follow each other and cover the characters that are not covered. -/
theorem gaps_spec (h : Ascending rs) : (∀ c, Covers (gaps rs) c ↔ ¬ Covers rs c) ∧ Ascending (gaps rs) := by
  obtain ⟨hcovers, hascending, -⟩ := @gapsFrom_spec rs 0 h fun _ _ c _ => Nat.zero_le c.toNat
  refine ⟨fun c => ?_, hascending⟩
  rw [gaps, hcovers, and_iff_right (Nat.zero_le _)]

/-- What two sets share is written out as ranges that follow each other. -/
theorem shared_spec (hr : Ascending rs) (hs : Ascending ss) :
    (∀ c, Covers (shared rs ss) c ↔ Covers rs c ∧ Covers ss c) ∧
    Ascending (shared rs ss) := by
  obtain ⟨hcoversR, hgapsR⟩ := gaps_spec hr
  obtain ⟨hcoversS, hgapsS⟩ := gaps_spec hs
  obtain ⟨hjoined, hascending⟩ := @joined_spec (gaps rs ++ gaps ss)
    (List.forall_mem_append.2 ⟨hgapsR.proper, hgapsS.proper⟩)
  obtain ⟨hcovers, hshared⟩ := gaps_spec hascending
  refine ⟨fun c => ?_, hshared⟩
  rw [shared, hcovers, hjoined, covers_append, hcoversR, hcoversS, not_or, not_not, not_not]

/-! ## Tables -/

/-- The pieces of a range have its members. -/
theorem covers_pieces {r : CharRange} : Covers r.pieces c ↔ r.contains c.toNat = true := by
  rw [← CharRange.mem_members_iff]
  unfold CharRange.pieces
  split
  · rename_i h
    rw [CharRange.mem_members_iff, covers_cons]
    simp [CharRange.contains, h.1, Nat.mod_one, not_covers_nil]
  · simp only [Covers, List.mem_map, exists_exists_and_eq_and]
    constructor
    · rintro ⟨n, hn, hle, hge⟩
      exact Nat.le_antisymm hle hge ▸ hn
    · intro h
      exact ⟨_, h, Nat.le_refl _, Nat.le_refl _⟩

theorem proper_pieces {r : CharRange} : ∀ p ∈ r.pieces, Proper p := by
  unfold CharRange.pieces
  split
  · rename_i h
    exact List.forall_mem_singleton.2 (proper_of_le h.2)
  · exact List.forall_mem_map.2 fun n _ => proper_of_le (Nat.le_refl n)

/-- A table is written out as ranges that follow each other and have its characters. -/
theorem tableRanges_spec (table : List CharRange) : (∀ c, Covers (tableRanges table) c ↔
    CharRange.anyContains table c = true) ∧ Ascending (tableRanges table) := by
  have hproper : ∀ p ∈ table.flatMap (·.pieces), Proper p := by
    simp only [List.mem_flatMap]
    rintro p ⟨r, -, hp⟩
    exact proper_pieces p hp
  obtain ⟨hcovers, hascending⟩ := joined_spec hproper
  refine ⟨fun c => ?_, hascending⟩
  rw [tableRanges, hcovers, CharRange.anyContains, List.any_eq_true]
  simp only [← covers_pieces]
  unfold Covers
  simp only [List.mem_flatMap]
  grind

theorem anyContains_flatMap {ks : List Category} :
    CharRange.anyContains (ks.flatMap (·.ranges)) c = ks.any fun k => CharRange.anyContains k.ranges c := by
  simp [CharRange.anyContains, List.any_flatMap]

/-- Categories are written out as ranges that follow each other and have their characters. -/
theorem categoryRanges_spec (ks : List Category) : (∀ c, Covers (categoryRanges ks) c ↔
    ks.any (·.contains c) = true) ∧ Ascending (categoryRanges ks) := by
  obtain ⟨hlisted, hlistedAscending⟩ := tableRanges_spec (ks.flatMap (·.ranges))
  obtain ⟨hassigned, hassignedAscending⟩ := tableRanges_spec (Category.assigned.flatMap (·.ranges))
  obtain ⟨hgaps, hgapsAscending⟩ := gaps_spec hassignedAscending
  obtain ⟨hjoined, hascending⟩ := @joined_spec (tableRanges (ks.flatMap (·.ranges)) ++
      if ks.contains .unassigned then gaps (tableRanges (Category.assigned.flatMap (·.ranges))) else [])
    (List.forall_mem_append.2 ⟨hlistedAscending.proper, by split; exacts [hgapsAscending.proper, by simp]⟩)
  refine ⟨fun c => ?_, hascending⟩
  -- The code points that are not assigned have no table: they are what the other categories leave out.
  have hmembers : (∃ k ∈ ks, k.contains c = true) ↔ (∃ k ∈ ks, CharRange.anyContains k.ranges c = true) ∨
      Category.unassigned ∈ ks ∧ Category.unassigned.contains c = true := by
    constructor
    · rintro ⟨k, hk, hc⟩
      by_cases hlast : k = .unassigned
      · exact .inr ⟨hlast ▸ hk, hlast ▸ hc⟩
      · exact .inl ⟨k, hk, by cases k <;> first | exact hc | exact absurd rfl hlast⟩
    · rintro (⟨k, hk, hc⟩ | ⟨hk, hc⟩)
      · exact ⟨k, hk, by cases k <;> first | exact hc | exact absurd hc Bool.false_ne_true⟩
      · exact ⟨_, hk, hc⟩
  rw [categoryRanges, hjoined, covers_append, hlisted, anyContains_flatMap, List.any_eq_true, List.any_eq_true,
    hmembers]
  refine or_congr_right ?_
  split
  · rename_i hk
    rw [List.contains_iff_mem] at hk
    rw [hgaps, hassigned, anyContains_flatMap, and_iff_right hk, Category.contains, Bool.not_eq_true', Bool.not_eq_true]
  · rename_i hk
    exact iff_of_false not_covers_nil fun h => hk (List.contains_iff_mem.2 h.1)

/-! ## Sets -/

theorem covers_single {cs : List Char} : Covers (cs.map fun c => (c.toNat, c.toNat)) c ↔ c ∈ cs := by
  simp only [Covers, List.mem_map, exists_exists_and_eq_and]
  refine ⟨fun ⟨d, hd, hle, hge⟩ => ?_, fun h => ⟨c, h, Nat.le_refl _, Nat.le_refl _⟩⟩
  rwa [← Char.toNat_inj.1 (Nat.le_antisymm hle hge)]

/-- A set is written out as ranges that follow each other and have its characters. -/
theorem ranges_spec (s : CharSet) : (∀ c, Covers s.ranges c ↔ s.contains c = true) ∧ Ascending s.ranges := by
  induction s with
  | none => exact ⟨fun c => by simp [ranges, contains, not_covers_nil], ⟨by simp [ranges], .nil⟩⟩
  | all =>
    refine ⟨fun c => ?_, ⟨List.forall_mem_singleton.2 (proper_of_le (Nat.zero_le _)), List.pairwise_singleton ..⟩⟩
    have hc := toNat_lt c
    refine iff_of_true ⟨_, List.mem_singleton.2 rfl, Nat.zero_le _, ?_⟩ rfl
    show c.toNat ≤ 0x10FFFF
    omega
  | range first last =>
    unfold ranges
    split
    · rename_i hle
      refine ⟨fun c => ?_, ⟨List.forall_mem_singleton.2 (proper_of_le hle), List.pairwise_singleton ..⟩⟩
      rw [covers_cons, contains, Bool.and_eq_true, decide_eq_true_iff, decide_eq_true_iff, or_iff_left not_covers_nil]
      exact Iff.rfl
    · rename_i hle
      refine ⟨fun c => iff_of_false not_covers_nil fun hc => hle ?_, ⟨by simp, .nil⟩⟩
      rw [contains, Bool.and_eq_true, decide_eq_true_iff, decide_eq_true_iff] at hc
      exact Char.le_trans hc.1 hc.2
  | table rs => exact tableRanges_spec rs
  | categories ks => exact categoryRanges_spec ks
  | complement s ih =>
    obtain ⟨hcovers, hascending⟩ := gaps_spec ih.2
    exact ⟨fun c => by rw [ranges, hcovers, ih.1, contains, Bool.not_eq_true, Bool.not_eq_true'], hascending⟩
  | union s t ihs iht =>
    obtain ⟨hcovers, hascending⟩ := joined_spec (List.forall_mem_append.2 ⟨ihs.2.proper, iht.2.proper⟩)
    exact ⟨fun c => by rw [ranges, hcovers, covers_append, ihs.1, iht.1, contains, Bool.or_eq_true], hascending⟩
  | inter s t ihs iht =>
    obtain ⟨hcovers, hascending⟩ := shared_spec ihs.2 iht.2
    exact ⟨fun c => by rw [ranges, hcovers, ihs.1, iht.1, contains, Bool.and_eq_true], hascending⟩
  | caseClosed s ih =>
    obtain ⟨hcovers, hascending⟩ := @joined_spec (s.ranges ++
        ((casedCharacters.filter s.contains).flatMap Text.caseVariants).map fun c => (c.toNat, c.toNat))
      (List.forall_mem_append.2 ⟨ih.2.proper, List.forall_mem_map.2 fun c _ => proper_of_le (Nat.le_refl _)⟩)
    refine ⟨fun c => ?_, hascending⟩
    rw [ranges, hcovers, covers_append, ih.1, covers_single, contains, Bool.or_eq_true, List.any_eq_true]
    simp only [List.mem_flatMap, List.mem_filter]
    constructor
    · rintro (hc | ⟨w, ⟨-, hw⟩, hc⟩)
      · exact .inl hc
      · exact .inr ⟨w, Text.mem_caseVariants_comm.1 hc, hw⟩
    · rintro (hc | ⟨v, hv, hc⟩)
      · exact .inl hc
      · -- The set has the character itself, or another variant of it, which is a cased character then.
        by_cases hne : v = c
        · exact .inl (hne ▸ hc)
        · exact .inr ⟨v, ⟨Text.mem_casedCharacters hv hne, hc⟩, Text.mem_caseVariants_comm.1 hv⟩

/-- Sets that are written out alike have the same characters. -/
theorem contains_eq_of_sameAs {s t : CharSet} (h : s.sameAs t = true) (c : Char) : s.contains c = t.contains c := by
  unfold sameAs at h
  rw [Bool.or_eq_true, beq_iff_eq, beq_iff_eq] at h
  rcases h with rfl | h
  · rfl
  · rw [Bool.eq_iff_iff, ← (ranges_spec s).1, ← (ranges_spec t).1, h]

end TextAnalysis.CharSet
