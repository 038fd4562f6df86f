/-
# Exact occurrences with a tolerance

A tolerant search takes the candidate that its measure finds closest to a key, the first of several. With a distance
that counts edits no candidate is closer than the key itself, so the first exact occurrence is found also with a
tolerance. The candidates are proper pieces of the rest of the text, though: a key that is all that is left is none of
them, and its last character is cut off if the threshold admits one edit.
-/
import Mathlib.Order.Bounds.Basic
import TextAnalysis.Proofs.Binary64
import TextAnalysis.Proofs.Metric.Ordering
import TextAnalysis.Proofs.Tokenizers.Scanning

namespace TextAnalysis

/-! ## Edit distances -/

/-- A metric reports a distance that lies between the one with swaps anywhere and the one without swaps. -/
structure Metric.Reports (m : Metric) (distance : Text → Text → Nat) : Prop where
  value : ∀ a b, m.value a b = .ok (.ofNat (distance a b))
  isGain : m.isGain = false
  damerau_le : ∀ a b, Damerau.distance a b ≤ distance a b
  le_levenshtein : ∀ a b, distance a b ≤ Levenshtein.distance a b

/-- The metrics that report an edit distance as it is. -/
def Metric.editDistances : List Metric :=
  [levenshtein .distance, alignment, damerau .distance]

theorem Metric.exists_reports {m : Metric} (hm : m ∈ editDistances) : ∃ distance, m.Reports distance := by
  rcases List.mem_cons.1 hm with rfl | hm
  · exact ⟨Levenshtein.distance, fun _ _ => rfl, rfl,
      fun a b => (Damerau.distance_le_alignment a b).trans (Alignment.distance_le_levenshtein a b), fun _ _ => le_rfl⟩
  rcases List.mem_cons.1 hm with rfl | hm
  · exact ⟨Alignment.distance, fun _ _ => rfl, rfl, Damerau.distance_le_alignment, Alignment.distance_le_levenshtein⟩
  · obtain rfl := List.mem_singleton.1 hm
    exact ⟨Damerau.distance, fun _ _ => rfl, rfl, fun _ _ => le_rfl,
      fun a b => (Damerau.distance_le_alignment a b).trans (Alignment.distance_le_levenshtein a b)⟩

namespace Metric.Reports

variable {m : Metric} {distance : Text → Text → Nat} {a b : Text}

/-- Equal texts have the distance zero, and only they have. -/
theorem eq_zero_iff (h : m.Reports distance) : distance a b = 0 ↔ a = b := by
  have hlow := h.damerau_le a b
  have hhigh := h.le_levenshtein a b
  constructor
  · intro hzero
    exact Damerau.countsEdits_distance.eq_zero_iff.1 (by omega)
  · intro heq
    have := Levenshtein.countsEdits_distance.eq_zero_iff.2 heq
    omega

/-- What a text lacks to the length of the other one are edits. -/
theorem length_le (h : m.Reports distance) : a.length ≤ b.length + distance a b := by
  have hlow := h.damerau_le a b
  have hlength := abs_le.1 (Damerau.abs_length_sub_le a b)
  omega

/-- To leave out the last character is one edit. -/
theorem dropLast_le (h : m.Reports distance) (hne : a ≠ []) : distance a a.dropLast ≤ 1 := by
  have hlayout : Layout false (0 + 1) (a.dropLast ++ [a.getLast hne]) (a.dropLast ++ []) :=
    (Layout.refl a.dropLast).append (.deleteAll [a.getLast hne])
  rw [List.dropLast_append_getLast, List.append_nil] at hlayout
  exact (h.le_levenshtein _ _).trans (Levenshtein.distance_le hlayout)

end Metric.Reports

namespace KeyTokenizer

/-! ## The closest candidate -/

/-- A candidate where it stands first. -/
def spanOf (c : Fragment) (score : Binary64) : Span :=
  ⟨c.positions.toList.headD 0, c.text.length, score⟩

section Fold

variable {t : Tolerance} {key : Text} {score : Text → Binary64} {best : Option Span} {candidates : List Fragment}
  {c : Fragment}

/-- Scores of which lesser ones are better. -/
structure Scores (t : Tolerance) (key : Text) (score : Text → Binary64) : Prop where
  value : ∀ w, t.measure.value key w = .ok (score w)
  isGain : t.measure.isGain = false
  ne_nan : ∀ w, score w ≠ .nan

namespace Scores

/-- A candidate is taken if its score is as good as the threshold and less than that of the best span so far. -/
theorem improve_eq (h : Scores t key score) (best : Option Span) (c : Fragment) :
    improve t key best c =
      .ok (if (score c.text).le t.threshold = true ∧ ∀ s ∈ best, (score c.text).lt s.score = true then
        some (spanOf c (score c.text)) else best) := by
  unfold improve Measure.accepts Measure.isBetter
  rw [h.value, ok_bind, h.isGain]
  dsimp only
  cases best with
  | none =>
    have hbest : ∀ s ∈ (none : Option Span), (score c.text).lt s.score = true := nofun
    simp only [if_neg Bool.false_ne_true, Bool.and_true, and_iff_left hbest]
    split
    · rfl
    · rfl
  | some s =>
    have hbest : (∀ u ∈ some s, (score c.text).lt u.score = true) ↔ (score c.text).lt s.score = true := by simp
    simp only [if_neg Bool.false_ne_true, Bool.and_eq_true, hbest]
    split
    · rfl
    · rfl

/-- The score of what was found is that of one of the candidates. -/
theorem exists_foldlM (h : Scores t key score) (candidates : List Fragment) :
    ∃ best, candidates.foldlM (improve t key) none = .ok best ∧
      ∀ s ∈ best, ∃ u ∈ candidates, s.score = score u.text := by
  induction candidates using List.reverseRecOn with
  | nil => exact ⟨none, rfl, by simp⟩
  | append_singleton candidates c ih =>
    obtain ⟨best, hbest, hscores⟩ := ih
    rw [List.foldlM_append, hbest, ok_bind, List.foldlM_cons, h.improve_eq, ok_bind]
    refine ⟨_, rfl, fun s hs => ?_⟩
    split at hs
    · obtain rfl := Option.mem_some.1 hs
      exact ⟨c, List.mem_append_right _ (List.mem_singleton.2 rfl), rfl⟩
    · obtain ⟨u, hu, hscore⟩ := hscores s hs
      exact ⟨u, List.mem_append_left _ hu, hscore⟩

/-- Nothing is found if no candidate is as good as the threshold. -/
theorem foldlM_eq_none (h : Scores t key score) (hnone : ∀ u ∈ candidates, ¬ (score u.text).le t.threshold = true) :
    candidates.foldlM (improve t key) none = .ok none := by
  induction candidates with
  | nil => rfl
  | cons u candidates ih =>
    obtain ⟨hu, hrest⟩ := List.forall_mem_cons.1 hnone
    rw [List.foldlM_cons, h.improve_eq, ok_bind, if_neg fun hboth => hu hboth.1, ih hrest]

/-- A candidate as good as the threshold is found if all before it are worse and none after it is better. -/
theorem foldlM_eq_some (h : Scores t key score) {front back : List Fragment}
    (hc : (score c.text).le t.threshold = true)
    (hfront : ∀ u ∈ front, ¬ (score u.text).le (score c.text) = true)
    (hback : ∀ u ∈ back, (score c.text).le (score u.text) = true) :
    (front ++ c :: back).foldlM (improve t key) none = .ok (some (spanOf c (score c.text))) := by
  obtain ⟨best, hbest, hscores⟩ := h.exists_foldlM front
  have hbetter : ∀ s ∈ best, (score c.text).lt s.score = true := by
    intro s hs
    obtain ⟨u, hu, hscore⟩ := hscores s hs
    rw [hscore, Binary64.lt_eq_true_iff (h.ne_nan _) (h.ne_nan _)]
    exact hfront u hu
  -- The candidate takes the place of what was found before it, and nothing takes its place.
  rw [List.foldlM_append, hbest, ok_bind, List.foldlM_cons, h.improve_eq, ok_bind, if_pos ⟨hc, hbetter⟩]
  clear hbest hscores hbetter hfront
  induction back with
  | nil => rfl
  | cons u back ih =>
    obtain ⟨hu, hrest⟩ := List.forall_mem_cons.1 hback
    rw [List.foldlM_cons, h.improve_eq, ok_bind, if_neg, ih hrest]
    rintro ⟨-, hlt⟩
    exact (Binary64.lt_eq_true_iff (h.ne_nan _) (h.ne_nan _)).1 (hlt _ rfl) hu

end Scores

end Fold

/-! ## Finding a key that occurs -/

section Find

variable {k : KeyTokenizer} {m : Metric} {threshold : Binary64} {distance : Text → Text → Nat} {key rest : Text}

theorem scores_of_reports (hm : m.Reports distance) (threshold : Binary64) (key : Text) :
    Scores ⟨m, threshold⟩ key fun w => .ofNat (distance key w) :=
  ⟨hm.value key, hm.isGain, fun _ => Binary64.ofNat_ne_nan _⟩

theorem find_of_findClosest {t : Tolerance} (htolerance : k.tolerance = some t) {s : Option Span}
    (h : findClosest t key rest = .ok s) : k.find key rest = .ok (s.or (findExact key 0 rest)) := by
  unfold find
  rw [htolerance]
  dsimp only
  rw [h]
  rfl

/-- A candidate at some distance that the threshold admits is found where it stands first, if those before it are
farther from the key and none is nearer. -/
theorem find_eq_some (htolerance : k.tolerance = some ⟨m, threshold⟩) (hm : m.Reports distance)
    {front back : List Fragment} {c : Fragment}
    (htokens : LengthRange.unbounded.substrings rest = .ok (front ++ c :: back))
    {n : Nat} (hn : distance key c.text = n) (hadmits : (Binary64.ofNat n).le threshold = true)
    (hfront : ∀ u ∈ front, ¬ (Binary64.ofNat (distance key u.text)).le (.ofNat n) = true)
    (hback : ∀ u ∈ back, (Binary64.ofNat n).le (.ofNat (distance key u.text)) = true)
    {i : Nat} (hi : i ∈ c.positions) (hleast : ∀ y ∈ c.positions, i ≤ y) :
    k.find key rest = .ok (some ⟨i, c.text.length, .ofNat n⟩) := by
  subst hn
  have hclosest : findClosest ⟨m, threshold⟩ key rest = .ok (some (spanOf c (.ofNat (distance key c.text)))) := by
    unfold findClosest
    rw [htokens, ok_bind]
    exact (scores_of_reports hm threshold key).foldlM_eq_some hadmits hfront hback
  rw [find_of_findClosest htolerance hclosest, spanOf, headD_positions_eq hi hleast]
  rfl

/-- A key that is shorter than the rest of the text is found where it occurs first. -/
theorem find_of_length_lt (htolerance : k.tolerance = some ⟨m, threshold⟩) (hm : m.Reports distance)
    (hthreshold : Binary64.zero.le threshold = true) (hcount : key.length ≤ Integer64.greatestUnsigned)
    (hshorter : key.length < rest.length) {i : Nat} (hoccurs : OccursAt rest key i)
    (hfirst : ∀ j < i, ¬ OccursAt rest key j) : k.find key rest = .ok (some ⟨i, key.length, .ofNat 0⟩) := by
  obtain ⟨tokens, htokens, hstands⟩ := LengthRange.exists_substrings .unbounded rest
  have hlength : key.length ∈ LengthRange.unbounded.below rest.length :=
    LengthRange.mem_below_iff.2 ⟨List.length_pos_of_ne_nil hoccurs.1, hcount, hshorter⟩
  obtain ⟨c, hc, rfl, hi⟩ := (hstands key i).2 ⟨hlength, hoccurs⟩
  have hleast : ∀ y ∈ c.positions, i ≤ y := by
    intro y hy
    by_contra hlt
    exact hfirst y (by omega) ((LengthRange.mem_positions_iff htokens hc).1 hy)
  obtain ⟨front, back, rfl⟩ := List.append_of_mem hc
  refine find_eq_some htolerance hm htokens (hm.eq_zero_iff.2 rfl) ?_ ?_ ?_ hi hleast
  · rwa [Binary64.ofNat_zero]
  · -- Other candidates have other texts, since equal pieces were gathered.
    intro u hu
    have hne : c.text ≠ u.text := by
      have hnodup := Fragment.nodup_gather htokens
      rw [List.map_append, List.map_cons] at hnodup
      have hapart := (List.pairwise_append.1 hnodup).2.2
      exact (hapart _ (List.mem_map_of_mem hu) _ (List.mem_cons_self ..)).symm
    rw [Binary64.ofNat_zero]
    exact Binary64.not_ofNat_le_zero (Nat.pos_of_ne_zero fun h => hne (hm.eq_zero_iff.1 h))
  · intro u _
    rw [Binary64.ofNat_zero]
    exact Binary64.zero_le_ofNat _

/-- Of a key that is all that is left, no candidate is closer than one edit. -/
theorem distance_pos (hm : m.Reports distance) {tokens : List Fragment}
    (htokens : LengthRange.unbounded.substrings key = .ok tokens) {u : Fragment} (hu : u ∈ tokens) :
    0 < distance key u.text := by
  have hlt := (LengthRange.bounds_of_mem_below (LengthRange.length_mem_below htokens hu)).2
  refine Nat.pos_of_ne_zero fun hzero => ?_
  rw [← hm.eq_zero_iff.1 hzero] at hlt
  exact Nat.lt_irrefl _ hlt

/-- A key that is all that is left is found without its last character if the threshold admits one edit. -/
theorem find_self_of_le (htolerance : k.tolerance = some ⟨m, threshold⟩) (hm : m.Reports distance)
    (hthreshold : Binary64.one.le threshold = true) (hcount : key.length ≤ Integer64.greatestUnsigned)
    (hlong : 1 < key.length) : k.find key key = .ok (some ⟨0, key.length - 1, .ofNat 1⟩) := by
  obtain ⟨tokens, htokens, -⟩ := LengthRange.exists_substrings .unbounded key
  have hbelow : key.length - 1 ∈ LengthRange.unbounded.below key.length :=
    LengthRange.mem_below_iff.2 ⟨Nat.le_sub_one_of_lt hlong, (Nat.sub_le ..).trans hcount, by omega⟩
  obtain ⟨front, c, back, rfl, hc, hfront⟩ := LengthRange.exists_split_substrings htokens hbelow
  have hmem : c ∈ front ++ c :: back := List.mem_append_right _ (List.mem_cons_self ..)
  have hlength : c.text.length = key.length - 1 := by
    rw [hc, List.length_take_of_le (Nat.sub_le ..)]
  have hone : distance key c.text = 1 := by
    have hpos := distance_pos hm htokens hmem
    have hle := hm.dropLast_le (List.ne_nil_of_length_pos (Nat.lt_of_succ_lt hlong))
    rw [List.dropLast_eq_take, ← hc] at hle
    omega
  have hstart : 0 ∈ c.positions := by
    rw [LengthRange.mem_positions_iff htokens hmem, hc]
    exact ⟨hc ▸ c.nonempty, List.take_prefix ..⟩
  rw [← hlength]
  refine find_eq_some htolerance hm htokens hone ?_ ?_ ?_ hstart fun y _ => Nat.zero_le y
  · rwa [Binary64.ofNat_one]
  · -- Shorter candidates lack at least two characters.
    intro u hu
    have hshorter := hfront u hu
    have hedits : key.length ≤ u.text.length + distance key u.text := hm.length_le
    rw [Binary64.ofNat_one]
    exact Binary64.not_ofNat_le_one (by omega)
  · intro u hu
    rw [Binary64.ofNat_one]
    exact Binary64.one_le_ofNat (distance_pos hm htokens (List.mem_append_right _ (List.mem_cons_of_mem _ hu)))

/-- Otherwise there is no candidate for it, and it is found exactly. -/
theorem find_self_of_not_le (htolerance : k.tolerance = some ⟨m, threshold⟩) (hm : m.Reports distance)
    (hkey : key ≠ []) (hstrict : ¬ (1 < key.length ∧ Binary64.one.le threshold = true)) :
    k.find key key = .ok (some ⟨0, key.length, .one⟩) := by
  obtain ⟨tokens, htokens, -⟩ := LengthRange.exists_substrings .unbounded key
  have hclosest : findClosest ⟨m, threshold⟩ key key = .ok none := by
    unfold findClosest
    rw [htokens, ok_bind]
    refine (scores_of_reports hm threshold key).foldlM_eq_none fun u hu haccepted => ?_
    -- A candidate that the threshold admits would be shorter than the key and at least one edit away.
    obtain ⟨hpos, hlt⟩ := LengthRange.bounds_of_mem_below (LengthRange.length_mem_below htokens hu)
    exact hstrict ⟨by omega, Binary64.le_trans (Binary64.one_le_ofNat (distance_pos hm htokens hu)) haccepted⟩
  have hoccurs : OccursAt key key 0 := ⟨hkey, List.prefix_refl key⟩
  rw [find_of_findClosest htolerance hclosest, Option.none_or]
  rcases findExact_cases hkey 0 key with ⟨i, hfound, -, hfirst⟩ | ⟨-, hnone⟩
  · have hi : i = 0 := Nat.eq_zero_of_not_pos fun hpos => hfirst 0 hpos hoccurs
    rw [hfound, hi]
  · exact absurd hoccurs (hnone 0)

end Find

/-! ## Finding from a position on -/

/-- The occurrence of a key in a text that is found from a position on. -/
def findFrom (k : KeyTokenizer) (key text : Text) (start : Nat) : Except Error (Option Span) :=
  (k.find key (text.drop start)).map (Option.map (shift start))

/-- What is found of a key that occurs, by where it first occurs in the rest of the text. -/
theorem exists_find {k : KeyTokenizer} {m : Metric} {threshold : Binary64} {distance : Text → Text → Nat}
    (htolerance : k.tolerance = some ⟨m, threshold⟩) (hm : m.Reports distance)
    (hthreshold : Binary64.zero.le threshold = true) {key rest : Text}
    (hcount : key.length ≤ Integer64.greatestUnsigned) {i : Nat} (hoccurs : OccursAt rest key i)
    (hfirst : ∀ j < i, ¬ OccursAt rest key j) :
    ∃ found, k.find key rest = .ok (some found) ∧ found.start = i ∧
      found.length =
        if rest = key ∧ 1 < key.length ∧ Binary64.one.le threshold = true then key.length - 1 else key.length := by
  have hbound := hoccurs.add_length_le
  by_cases hshorter : key.length < rest.length
  · have hne : rest ≠ key := by
      rintro rfl
      exact Nat.lt_irrefl _ hshorter
    rw [if_neg fun h => hne h.1]
    exact ⟨_, find_of_length_lt htolerance hm hthreshold hcount hshorter hoccurs hfirst, rfl, rfl⟩
  · -- The key is all that is left.
    obtain rfl : i = 0 := by omega
    obtain rfl : key = rest := hoccurs.2.eq_of_length (by rw [List.drop_zero]; omega)
    by_cases htolerant : 1 < key.length ∧ Binary64.one.le threshold = true
    · rw [if_pos ⟨rfl, htolerant⟩]
      exact ⟨_, find_self_of_le htolerance hm htolerant.2 hcount htolerant.1, rfl, rfl⟩
    · rw [if_neg fun h => htolerant h.2]
      exact ⟨_, find_self_of_not_le htolerance hm hoccurs.1 htolerant, rfl, rfl⟩

/-- **Tolerance loses no exact occurrence but one.** Where a key occurs in a text at a position or behind it, the search
from that position with an edit distance and any threshold finds it where it occurs first, like the search without a
tolerance. It finds all of the key, unless the key has more than one character and is all that is left of the text, and
the threshold admits one edit: then it finds the key without its last character. (A 64-bit word counts the characters
of every key.) -/
theorem findFrom_nearest {k : KeyTokenizer} {m : Metric} {threshold : Binary64}
    (htolerance : k.tolerance = some ⟨m, threshold⟩) (hm : m ∈ Metric.editDistances)
    (hthreshold : Binary64.zero.le threshold = true) {key text : Text} {start : Nat}
    (hcount : key.length ≤ Integer64.greatestUnsigned) (hoccurs : ∃ i, start ≤ i ∧ OccursAt text key i) :
    ∃ found exact, k.findFrom key text start = .ok (some found) ∧
      { k with tolerance := none }.findFrom key text start = .ok (some exact) ∧
      searchFrom key text start = some exact ∧ IsLeast {i | start ≤ i ∧ OccursAt text key i} exact.start ∧
      exact.length = key.length ∧ found.start = exact.start ∧
      found.length =
        if text.drop start = key ∧ 1 < key.length ∧ Binary64.one.le threshold = true then key.length - 1
        else key.length := by
  obtain ⟨distance, hreports⟩ := Metric.exists_reports hm
  obtain ⟨place, hplace, hoccurs⟩ := hoccurs
  have hkey : key ≠ [] := hoccurs.1
  -- The search begins at the start of the rest of the text, where the first occurrence is looked for without a
  -- tolerance.
  rcases findExact_cases hkey 0 (text.drop start) with ⟨i, hexact, hi, hfirst⟩ | ⟨-, hnone⟩
  · rw [Nat.zero_add] at hexact
    obtain ⟨found, hfound, hstart, hlength⟩ := exists_find htolerance hreports hthreshold hcount hi hfirst
    refine ⟨shift start found, shift start ⟨i, key.length, .one⟩, ?_, ?_, ?_, ⟨⟨Nat.le_add_right .., ?_⟩, ?_⟩, rfl,
      congrArg (start + ·) hstart, hlength⟩
    · rw [findFrom, hfound]
      rfl
    · rw [findFrom, find]
      dsimp only
      rw [hexact]
      rfl
    · rw [searchFrom_eq hkey, ← Nat.add_zero start, findExact_add, Nat.add_zero, hexact]
      rfl
    · exact occursAt_drop_iff.1 hi
    · rintro j ⟨hj, hoccurs⟩
      obtain ⟨j, rfl⟩ := Nat.exists_eq_add_of_le hj
      refine Nat.add_le_add_left (Nat.le_of_not_lt fun hlt => ?_) start
      exact hfirst j hlt (occursAt_drop_iff.2 hoccurs)
  · obtain ⟨j, rfl⟩ := Nat.exists_eq_add_of_le hplace
    exact absurd (occursAt_drop_iff.2 hoccurs) (hnone j)

/-- Looks for one key, within one edit of the distance without swaps. -/
def withinOneEdit : KeyTokenizer :=
  { ofDictionary (Dictionary.ofList [⟨"one".toList, (), none⟩]) with
    tolerance := some ⟨Metric.levenshtein .distance, .one⟩ }

/-- Behind a character, the key is found in front of another one. -/
theorem findFrom_nearest_inFront :
    ∃ found, withinOneEdit.findFrom "one".toList "xoney".toList 1 = .ok (some found) ∧ found.start = 1 ∧
      found.length = 3 := by
  have hoccurs : OccursAt "xoney".toList "one".toList 1 := by decide
  obtain ⟨found, exact, hfound, -, hsearch, -, -, hstart, hlength⟩ :=
    findFrom_nearest (k := withinOneEdit) rfl (List.mem_cons_self ..) (by decide +kernel)
      (by decide) ⟨1, Nat.le_refl 1, hoccurs⟩
  obtain rfl : (⟨1, 3, .one⟩ : Span) = exact := Option.some.inj hsearch
  exact ⟨found, hfound, hstart, hlength⟩

/-- A text that is the key is cut behind its second character. -/
theorem findFrom_wholeText :
    OccursAt "one".toList "one".toList 0 ∧ Binary64.zero.le .one = true ∧
      searchFrom "one".toList "one".toList 0 = some ⟨0, 3, .one⟩ ∧
      (withinOneEdit.findFrom "one".toList "one".toList 0).toOption = some (some ⟨0, 2, .one⟩) := by
  decide +kernel

end KeyTokenizer

end TextAnalysis
