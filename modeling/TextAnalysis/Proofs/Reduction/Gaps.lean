/-
# Gaps between numbers

Which neighbours of a phrase of numbers are joined is fixed before the first merge. A merge closes the gap between
two words and leaves the operands at all other gaps as they are, so the gaps without an operand are those that
stay open.
-/
import Mathlib.Data.List.Chain
import TextAnalysis.Proofs.Reduction.Ends

namespace TextAnalysis.Phrase

/-! ## Counting neighbours -/

section Neighbours

variable {α : Type} {R : α → α → Bool}

/-- How many neighbours in a list stand in a relation. -/
def countNeighbours (R : α → α → Bool) : List α → Nat
  | a :: b :: rest => (R a b).toNat + countNeighbours R (b :: rest)
  | _ => 0

/-- The neighbours in a list are those before and those after any of its members. -/
theorem countNeighbours_split (l r : List α) (a : α) :
    countNeighbours R (l ++ a :: r) = countNeighbours R (l ++ [a]) + countNeighbours R (a :: r) := by
  induction l with
  | nil =>
    show countNeighbours R (a :: r) = 0 + countNeighbours R (a :: r)
    rw [Nat.zero_add]
  | cons b l ih =>
    cases l with
    | nil => rfl
    | cons c l =>
      show (R b c).toNat + countNeighbours R (c :: l ++ a :: r) =
        (R b c).toNat + countNeighbours R (c :: l ++ [a]) + countNeighbours R (a :: r)
      rw [ih, Nat.add_assoc]

/-- Only what stands before the last member depends on it. -/
theorem countNeighbours_concat_congr {a b : α} (h : ∀ x, R x a = R x b) (l : List α) :
    countNeighbours R (l ++ [a]) = countNeighbours R (l ++ [b]) := by
  induction l with
  | nil => rfl
  | cons c l ih =>
    cases l with
    | nil =>
      show (R c a).toNat + 0 = (R c b).toNat + 0
      rw [h]
    | cons d l => exact congrArg ((R c d).toNat + ·) ih

/-- Only what stands after the first member depends on it. -/
theorem countNeighbours_cons_congr {a b : α} (h : ∀ x, R a x = R b x) (r : List α) :
    countNeighbours R (a :: r) = countNeighbours R (b :: r) := by
  cases r with
  | nil => rfl
  | cons c r =>
    show (R a c).toNat + _ = (R b c).toNat + _
    rw [h]

theorem countNeighbours_eq_zero_iff {l : List α} :
    countNeighbours R l = 0 ↔ l.IsChain fun a b => R a b = false := by
  induction l with
  | nil => simp [countNeighbours]
  | cons a l ih =>
    cases l with
    | nil => simp [countNeighbours]
    | cons b l =>
      rw [countNeighbours, Nat.add_eq_zero_iff, ih, List.isChain_cons_cons]
      cases R a b <;> simp

/-- If all neighbours stand in the relation, then there are as many as there are places between members. -/
theorem length_eq_countNeighbours {l : List α} (hne : l ≠ [])
    (h : l.IsChain fun a b => R a b = true) : l.length = 1 + countNeighbours R l := by
  induction l with
  | nil => exact absurd rfl hne
  | cons a l ih =>
    cases l with
    | nil => rfl
    | cons b l =>
      obtain ⟨hab, hl⟩ := List.isChain_cons_cons.1 h
      rw [List.length_cons, ih (by simp) hl, countNeighbours, hab]
      show 1 + countNeighbours R (b :: l) + 1 = 1 + (1 + countNeighbours R (b :: l))
      omega

end Neighbours

/-! ## Operands at the gaps -/

/-- Whether there is no operand between two neighbouring values. -/
def isGap (a b : Numeral) : Bool :=
  a.right.isNone && b.left.isNone

/-- Two neighbours that can merge have an operand between them. -/
theorem isGap_of_mergeSide {a b : Numeral} {side : Side} (h : mergeSide a b = some side) :
    isGap a b = false := by
  unfold isGap
  cases side with
  | left =>
    obtain ⟨o, ho⟩ := Option.ne_none_iff_exists'.1 (mergeSide_eq_left_iff.1 h).1
    rw [ho, Option.isNone_some, Bool.and_false]
  | right =>
    obtain ⟨o, ho⟩ := Option.ne_none_iff_exists'.1 (mergeSide_eq_right_iff.1 h).1
    rw [ho, Option.isNone_some, Bool.false_and]

/-- A merge closes one gap that has an operand, and no other. -/
theorem Joins.countNeighbours_isGap {ns ns' : List Numeral} (h : Joins ns ns') :
    countNeighbours isGap ns' = countNeighbours isGap ns := by
  cases h with
  | @intro l r a b side o x hside ho hx hleast =>
    -- The merged value has the left operand of the one and the right operand of the other.
    have hleft : countNeighbours isGap (l ++ [joinedValue a b x]) =
        countNeighbours isGap (l ++ [a]) :=
      @countNeighbours_concat_congr _ isGap (joinedValue a b x) a (fun _ => rfl) l
    have hright : countNeighbours isGap (joinedValue a b x :: r) = countNeighbours isGap (b :: r) :=
      @countNeighbours_cons_congr _ isGap (joinedValue a b x) b (fun _ => rfl) r
    rw [countNeighbours_split, countNeighbours_split l (b :: r) a, hleft, hright, countNeighbours,
      isGap_of_mergeSide hside]
    show _ = _ + (0 + _)
    rw [Nat.zero_add]

/-! ## Reduced phrases of numbers -/

/-- The right operand of a word that its association allows. -/
def keptRight (w : Word) : Option Operand :=
  w.current.meaning.bind allowedRight

/-- The left operand of a word that its association allows. -/
def keptLeft (w : Word) : Option Operand :=
  w.current.meaning.bind allowedLeft

/-- Whether the associations of two neighbouring words leave no operand between them. -/
def isWordGap (u v : Word) : Bool :=
  (keptRight u).isNone && (keptLeft v).isNone

/-- Masking the ends changes no gap between two words. -/
theorem countNeighbours_masked {size : Nat} {ws : List Word} {ms : List (Meaning Numeral)}
    {start : Nat} (hms : ws.map (·.current.meaning) = ms.map some) (hsize : start + ms.length = size) :
    countNeighbours isGap ((ms.zipIdx start).map fun (m, i) => masked size i m) =
      countNeighbours isWordGap ws := by
  induction ws generalizing ms start with
  | nil =>
    rw [List.map_nil, eq_comm, List.map_eq_nil_iff] at hms
    rw [hms]
    rfl
  | cons u ws ih =>
    cases ms with
    | nil => cases hms
    | cons m ms =>
      obtain ⟨hu, htail⟩ := List.cons.inj hms
      have hrest := @ih ms (start + 1) htail (by rw [← hsize, List.length_cons]; omega)
      cases ws with
      | nil =>
        rw [List.map_nil, eq_comm, List.map_eq_nil_iff] at htail
        rw [htail]
        rfl
      | cons v ws =>
        cases ms with
        | nil => cases htail
        | cons m' ms =>
          have hlt : start + 1 < size := by
            rw [← hsize, List.length_cons, List.length_cons]
            omega
          have hu : u.current.meaning = some m := hu
          have hv : v.current.meaning = some m' := (List.cons.inj htail).1
          -- Only the operands that point out of the phrase are masked, none between two neighbours.
          have hgap : isGap (masked size start m) (masked size (start + 1) m') = isWordGap u v := by
            unfold isGap isWordGap keptRight keptLeft
            rw [masked_right_of_lt hlt, masked_left_of_pos (Nat.succ_pos _), hu, hv]
            rfl
          show (isGap _ _).toNat + _ = _
          rw [hgap]
          exact congrArg (_ + ·) hrest

/-- Numbers that have no operand at an end or between neighbours are resolved. -/
theorem resolved_of_isChain {ns : List Numeral} (hnumbers : ∀ n ∈ ns, n.isModifier = false)
    (hends : EndsFree ns) (hgaps : ns.IsChain fun a b => isGap a b = true) :
    ∀ n ∈ ns, n.isResolved = true := by
  induction ns with
  | nil => simp
  | cons a ns ih =>
    have ha : a.isModifier = false := hnumbers a (List.mem_cons_self ..)
    have hleft : a.left = none := hends.first a rfl
    intro n hn
    cases ns with
    | nil =>
      obtain rfl := List.mem_singleton.1 hn
      exact isResolved_iff.2 ⟨ha, hleft, hends.last n rfl⟩
    | cons b ns =>
      obtain ⟨hgap, htail⟩ := List.isChain_cons_cons.1 hgaps
      obtain ⟨hright, hb⟩ := Bool.and_eq_true_iff.1 hgap
      rw [Option.isNone_iff_eq_none] at hright hb
      have hends' : EndsFree (b :: ns) :=
        ⟨fun c hc => by cases hc; exact hb, fun c hc => hends.last c hc⟩
      rcases List.mem_cons.1 hn with rfl | hn
      · exact isResolved_iff.2 ⟨ha, hleft, hright⟩
      · exact ih (fun c hc => hnumbers c (List.mem_cons_of_mem _ hc)) hends' htail n hn

/-- What merges of numbers keep: they are numbers, no operand faces an end, and the gaps without an operand are as
many as before. -/
structure NumbersWithGaps (gaps : Nat) (ns : List Numeral) : Prop where
  ne_nil : ns ≠ []
  numbers : ∀ n ∈ ns, n.isModifier = false
  ends : EndsFree ns
  gaps : countNeighbours isGap ns = gaps

theorem Joins.numbersWithGaps {gaps : Nat} {ns ns' : List Numeral} (h : Joins ns ns')
    (hns : NumbersWithGaps gaps ns) : NumbersWithGaps gaps ns' where
  ne_nil := by
    cases h
    simp
  numbers := h.numbers hns.numbers
  ends := h.endsFree hns.ends
  gaps := h.countNeighbours_isGap.trans hns.gaps

/-- The values of a masked phrase of numbers have the gaps that the associations of the words leave. -/
theorem numbersWithGaps_masked {ws : List Word} {ms : List (Meaning Numeral)} (hne : ws ≠ [])
    (hms : ws.map (·.current.meaning) = ms.map some) (hnumbers : ∀ m ∈ ms, m.value.isModifier = false) :
    NumbersWithGaps (countNeighbours isWordGap ws)
      (ms.zipIdx.map fun (m, i) => masked ms.length i m) where
  ne_nil hnil := by
    rw [List.map_eq_nil_iff, List.zipIdx_eq_nil_iff] at hnil
    rw [hnil] at hms
    exact hne (List.map_eq_nil_iff.1 hms)
  numbers := numbers_masked hnumbers _
  ends := endsFree_masked ms
  gaps := countNeighbours_masked hms (Nat.zero_add _)

/-- Where no two numbers can merge, all gaps are without an operand. -/
theorem isChain_of_nextCandidate {t : Phrase} {ns : List Numeral} (hns : t.Reads ns)
    (hnumbers : ∀ n ∈ ns, n.isModifier = false) (hend : t.nextCandidate = .ok none) :
    ns.IsChain fun a b => isGap a b = true := by
  rw [List.isChain_iff_forall_rel_of_append_cons_cons]
  intro a b l r hl
  have hnone := (nextCandidate_eq_none_iff hns).1 hend l a b r hl
  obtain ⟨hr, hl'⟩ :=
    (mergeSide_eq_none_iff (hnumbers a (by simp [hl])) (hnumbers b (by simp [hl]))).1 hnone
  unfold isGap
  rw [hr, hl']
  rfl

/-- A reduced phrase has a number to extract exactly if it is a single word that is resolved. -/
theorem exists_extract_iff {t : Phrase} (hresolved : ∀ w ∈ t.tokens, ∃ n, w.current.value? = some n ∧
    n.isResolved = true) : (∃ x, t.extract = .ok x) ↔ t.size = 1 := by
  unfold extract Sequence.size
  cases ht : t.tokens with
  | nil => simp
  | cons w ws =>
    cases ws with
    | nil =>
      obtain ⟨n, hn, hres⟩ := hresolved w (by rw [ht]; exact List.mem_cons_self ..)
      simp [hn, hres]
    | cons w' ws => simp

/-- **Which numbers are joined.** Of a phrase of numbers that reduces, every word that is left is a resolved
number. There is one more of them than there are neighbours whose associations leave no operand between them, so a
number can be extracted exactly if there is an operand between any two neighbours. -/
theorem reduce_numbers {s t : Phrase} (hne : s.tokens ≠ [])
    (hnumbers : ∀ w ∈ s.tokens, ∃ m, w.current.meaning = some m ∧ m.value.kind = .number)
    (h : s.reduce = .ok t) :
    (∀ w ∈ t.tokens, ∃ n, w.current.value? = some n ∧ n.isResolved = true) ∧
      t.size = 1 + countNeighbours isWordGap s.tokens ∧
      ((∃ x, t.extract = .ok x) ↔
        s.tokens.IsChain fun u v => keptRight u ≠ none ∨ keptLeft v ≠ none) := by
  obtain ⟨m, hmask, hmerges, hend⟩ := merges_of_reduce h
  obtain ⟨ms, hms, hkinds⟩ := exists_map_eq_map_some hnumbers
  have hnot : ∀ m ∈ ms, m.value.isModifier = false := by
    intro m hm
    unfold Numeral.isModifier
    rw [hkinds m hm]
    rfl
  have hsize : s.tokens.length = ms.length := by simpa using congrArg List.length hms
  have hreads := reads_of_mask hmask hms
  rw [Sequence.size, hsize] at hreads
  obtain ⟨ns, hns, hkept⟩ := exists_values_of_merges (fun _ _ hkept hjoins => hjoins.numbersWithGaps hkept)
    hmerges hreads (numbersWithGaps_masked hne hms hnot)
  -- At the end there is a gap between any two values, and merging has kept the number of the gaps.
  have hchain := isChain_of_nextCandidate hns hkept.numbers hend
  have hcount : t.size = 1 + countNeighbours isWordGap s.tokens := by
    rw [← hkept.gaps, ← length_eq_countNeighbours hkept.ne_nil hchain, hns.length_eq]
    rfl
  have hresolved : ∀ w ∈ t.tokens, ∃ n, w.current.value? = some n ∧ n.isResolved = true := by
    intro w hw
    obtain ⟨n, hn, hvalue⟩ := exists_mem_of_map_eq_map_some hns hw
    exact ⟨n, hvalue, resolved_of_isChain hkept.numbers hkept.ends hchain n hn⟩
  refine ⟨hresolved, hcount, ?_⟩
  rw [exists_extract_iff hresolved, hcount, Nat.add_eq_left, countNeighbours_eq_zero_iff]
  refine List.IsChain.iff fun u v => ?_
  unfold isWordGap
  cases keptRight u <;> cases keptLeft v <;> simp

/-- Twenty, one and seven: the first two can be joined, and there is no operand before the third. -/
def twentyOneSeven : Phrase :=
  .ofList
    [lettered 't' 0 { value := 20, right := some ⟨.add, 1, 9⟩ }, lettered 'o' 2 (.number 1),
      lettered 's' 4 (.number 7)]

/-- Two resolved numbers are left, so no number can be extracted. -/
theorem reduce_numbers_twentyOneSeven :
    ∃ t, twentyOneSeven.reduce = .ok t ∧ t.size = 2 ∧
      (∀ w ∈ t.tokens, ∃ n, w.current.value? = some n ∧ n.isResolved = true) ∧
      t.size = 1 + countNeighbours isWordGap twentyOneSeven.tokens ∧
      ((∃ x, t.extract = .ok x) ↔
        twentyOneSeven.tokens.IsChain fun u v => keptRight u ≠ none ∨ keptLeft v ≠ none) := by
  have hnumbers : ∀ w ∈ twentyOneSeven.tokens,
      ∃ m, w.current.meaning = some m ∧ m.value.kind = .number := by
    intro w hw
    simp only [twentyOneSeven, Sequence.ofList, List.mem_cons, List.not_mem_nil, or_false] at hw
    rcases hw with rfl | rfl | rfl
    · exact ⟨_, rfl, rfl⟩
    · exact ⟨_, rfl, rfl⟩
    · exact ⟨_, rfl, rfl⟩
  exact ⟨_, rfl, rfl, reduce_numbers (by simp [twentyOneSeven, Sequence.ofList]) hnumbers rfl⟩

end TextAnalysis.Phrase
