/-
# The nearest key

Within a tolerance a word is looked up by its dissimilarity to the keys of a dictionary. Of the entries that are near
enough the nearest one is taken, the first of several; that is the nearest of all entries, if it is near enough. With no
dissimilarity allowed it is the entry whose key is the word.
-/
import Mathlib.Data.List.Induction
import TextAnalysis.Dictionary
import TextAnalysis.Proofs.Binary64
import TextAnalysis.Proofs.Metric.Levenshtein
import TextAnalysis.Proofs.Outcomes
import TextAnalysis.Stage

namespace TextAnalysis

variable {α : Type}

/-! ## The best of several matches -/

namespace Matches

/-- The better of a match and a later one, where lesser scores are better. -/
def nearer (best later : Match α) : Match α :=
  if later.score.lt best.score then later else best

theorem betterM_eq (best later : Match α) :
    betterM (m := Id) false (fun _ _ => pure false) best later = pure (nearer best later) := by
  -- A later match with an equal score is not better, so the tie is decided as the comparison would.
  have htie : later.score.eq best.score = true → later.score.lt best.score = false := by
    unfold Binary64.eq Binary64.lt
    cases later.score.le best.score <;> cases best.score.le later.score <;> simp
  unfold betterM nearer
  cases heq : later.score.eq best.score with
  | false => rfl
  | true =>
    rw [htie heq]
    rfl

/-- With one more match, the best is the better of the best so far and that one. -/
theorem best_concat (l : List (Match α)) (later : Match α) :
    best ⟨l ++ [later], false⟩ = some ((best ⟨l, false⟩).elim later (nearer · later)) := by
  cases l with
  | nil => rfl
  | cons first l =>
    unfold best bestBy bestByM
    simp only [List.cons_append, List.foldlM_append, betterM_eq, List.foldlM_cons, List.foldlM_nil]
    rfl

theorem mem_of_best {l : List (Match α)} {m : Match α} (h : best ⟨l, false⟩ = some m) : m ∈ l := by
  induction l using List.reverseRecOn generalizing m with
  | nil => cases h
  | append_singleton l later ih =>
    rw [best_concat] at h
    cases hbest : best ⟨l, false⟩ with
    | none =>
      rw [hbest] at h
      obtain rfl : later = m := Option.some.inj h
      simp
    | some n =>
      rw [hbest] at h
      obtain rfl : nearer n later = m := Option.some.inj h
      unfold nearer
      split
      · simp
      · exact List.mem_append_left _ (ih hbest)

/-- Of two matches the better one is within a limit exactly if it is the better one of those that are. -/
theorem filter_nearer {m later : Match α} (hm : m.score ≠ .nan) (hlater : later.score ≠ .nan) (t : Binary64) :
    (some (nearer m later)).filter (·.score.le t) =
      if later.score.le t then some (((some m).filter (·.score.le t)).elim later (nearer · later))
      else (some m).filter (·.score.le t) := by
  have hlt := Binary64.lt_eq_true_iff hlater hm
  by_cases hlaterLe : later.score.le t = true
  · by_cases hmLe : m.score.le t = true
    · have hboth : (nearer m later).score.le t = true := by
        unfold nearer
        split
        · exact hlaterLe
        · exact hmLe
      rw [Option.filter_some, Option.filter_some, if_pos hboth, if_pos hlaterLe, if_pos hmLe]
      rfl
    · -- What is within the limit is less than what is not.
      have hbetter : later.score.lt m.score = true := hlt.2 fun hle => hmLe (Binary64.le_trans hle hlaterLe)
      simp [nearer, Option.filter_some, hbetter, hlaterLe, hmLe]
  · by_cases hbetter : later.score.lt m.score = true
    · have hmLe : ¬ m.score.le t = true := fun hle => hlaterLe (Binary64.le_trans (Binary64.le_of_lt hbetter) hle)
      simp [nearer, Option.filter_some, hbetter, hlaterLe, hmLe]
    · simp [nearer, hbetter, hlaterLe]

/-- The best of the matches within a limit is the best of all, if that is within the limit. -/
theorem best_filter {l : List (Match α)} (hl : ∀ m ∈ l, m.score ≠ .nan) (t : Binary64) :
    best ⟨l.filter (·.score.le t), false⟩ = (best ⟨l, false⟩).filter (·.score.le t) := by
  induction l using List.reverseRecOn with
  | nil => rfl
  | append_singleton l later ih =>
    have ih := ih fun m hm => hl m (List.mem_append_left _ hm)
    -- The last match counts only if it is within the limit.
    have hfilter : best ⟨(l ++ [later]).filter (·.score.le t), false⟩ =
        if later.score.le t then some (((best ⟨l, false⟩).filter (·.score.le t)).elim later (nearer · later))
        else (best ⟨l, false⟩).filter (·.score.le t) := by
      rw [List.filter_append, List.filter_cons, List.filter_nil, ← ih]
      split
      · exact best_concat _ later
      · rw [List.append_nil]
    rw [hfilter, best_concat]
    cases hbest : best ⟨l, false⟩ with
    | none =>
      rw [Option.filter_none, Option.elim_none, Option.filter_some]
    | some m => exact (filter_nearer (hl m (List.mem_append_left _ (mem_of_best hbest))) (hl later (by simp)) t).symm

/-- Among matches of which none is better than another, the first is the best. -/
theorem best_eq_head? {l : List (Match α)} (h : ∀ m ∈ l, ∀ n ∈ l, m.score.lt n.score = false) :
    best ⟨l, false⟩ = l.head? := by
  induction l using List.reverseRecOn with
  | nil => rfl
  | append_singleton l later ih =>
    have ih := ih fun m hm n hn => h m (List.mem_append_left _ hm) n (List.mem_append_left _ hn)
    rw [best_concat, ih]
    cases l with
    | nil => rfl
    | cons first l =>
      have hfirst : later.score.lt first.score = false := h later (by simp) first (by simp)
      simp [nearer, hfirst]

end Matches

/-! ## Dissimilarity -/

/-- The distance of a word from a key in proportion to the length of the longer one. -/
def dissimilarity (word key : Text) : Binary64 :=
  (Scale.dissimilarity.report (Levenshtein.distance word key) (max word.length key.length)).toBinary64

theorem dissimilarity_eq (word key : Text) : dissimilarity word key =
    if max word.length key.length = 0 then .ofRatio 0 1
    else .ofRatio (Levenshtein.distance word key) (max word.length key.length) := by
  unfold dissimilarity
  show Score.toBinary64 (Score.proportion _ _) = _
  unfold Score.proportion
  split <;> rfl

theorem dissimilarity_ne_nan (word key : Text) : dissimilarity word key ≠ .nan := by
  rw [dissimilarity_eq]
  split
  · exact Binary64.ofRatio_ne_nan _ _
  · exact Binary64.ofRatio_ne_nan _ _

theorem dissimilarity_self (word : Text) : dissimilarity word word = .zero := by
  rw [dissimilarity_eq, Levenshtein.countsEdits_distance.eq_zero_iff.2 rfl, Binary64.ofRatio_zero,
    Binary64.ofRatio_zero, ite_self]

/-- A word of fewer characters than there are units in one is not dissimilar from itself alone. -/
theorem dissimilarity_le_zero_iff {word key : Text} (hword : word.length < Binary64.unitsPerOne) :
    (dissimilarity word key).le .zero = true ↔ key = word := by
  constructor
  · intro hle
    by_contra hne
    have hpos : Levenshtein.distance word key ≠ 0 := fun hzero =>
      hne (Levenshtein.countsEdits_distance.eq_zero_iff.1 hzero).symm
    have hlength := Levenshtein.length_le_distance word key
    obtain ⟨n, hn⟩ := Nat.exists_eq_succ_of_ne_zero hpos
    -- The distance in units is no less than the length, so their quotient is not rounded to zero.
    have hunits : n ≤ n * Binary64.unitsPerOne := Nat.le_mul_of_pos_right n (Nat.zero_lt_of_lt hword)
    have hbound : max word.length key.length ≤ Levenshtein.distance word key * Binary64.unitsPerOne := by
      rw [hn, Nat.succ_mul]
      omega
    have hlengthPos : 0 < max word.length key.length := by
      by_contra hzero
      have hwordNil : word = [] := List.eq_nil_of_length_eq_zero (by omega)
      have hkeyNil : key = [] := List.eq_nil_of_length_eq_zero (by omega)
      exact hne (hkeyNil.trans hwordNil.symm)
    rw [dissimilarity_eq, if_neg (Nat.ne_of_gt hlengthPos)] at hle
    exact Binary64.not_ofRatio_le_zero hlengthPos hbound hle
  · rintro rfl
    rw [dissimilarity_self]
    decide

/-! ## Looking up -/

namespace Dictionary

/-- An entry as a match of a word, near or not. -/
def candidate (word : Text) (e : Entry α) : Match α :=
  ⟨e, word, dissimilarity word e.key⟩

/-- The entry whose key is nearest to a word, the first of several. -/
def nearest (d : Dictionary α) (word : Text) : Option (Match α) :=
  Matches.best ⟨d.entries.map (candidate word), false⟩

/-- The matches of a word within a limit are the candidates within that limit. -/
theorem matching_eq [PatternEngine] (d : Dictionary α) (word : Text) (t : Binary64) :
    d.matching word (.metric (.levenshtein .dissimilarity) t) =
      .ok ⟨(d.entries.map (candidate word)).filter (·.score.le t), false⟩ := by
  have hmatches : d.entries.mapM (matchEntry (.metric (.levenshtein .dissimilarity) t) word) =
      .ok ((d.entries.map (candidate word)).map (Option.guard (·.score.le t))) := by
    rw [mapM_eq_ok, List.map_map, List.forall₂_map_right_iff, List.forall₂_same]
    intro e _
    show Except.ok (Option.map _ (if (dissimilarity word e.key).le t = true then _ else _)) = _
    unfold Function.comp Option.guard candidate
    dsimp only
    split
    · rfl
    · rfl
  unfold matching
  rw [hmatches, ok_bind, List.filterMap_map, Function.id_comp, List.filterMap_eq_filter]
  rfl

/-- The best candidate within a limit is the nearest entry, if it is within the limit. -/
theorem best_filter_candidate (d : Dictionary α) (word : Text) (t : Binary64) :
    Matches.best ⟨(d.entries.map (candidate word)).filter (·.score.le t), false⟩ =
      (d.nearest word).filter (·.score.le t) := by
  refine Matches.best_filter (fun m hm => ?_) t
  obtain ⟨e, -, rfl⟩ := List.mem_map.1 hm
  exact dissimilarity_ne_nan _ _

/-- The best match of a word within a limit is the nearest entry, if it is within the limit. -/
theorem best_matching [PatternEngine] (d : Dictionary α) (word : Text) (t : Binary64) :
    (d.matching word (.metric (.levenshtein .dissimilarity) t)).map Matches.best =
      .ok ((d.nearest word).filter (·.score.le t)) := by
  rw [matching_eq]
  exact congrArg Except.ok (d.best_filter_candidate word t)

/-- The nearest entry is within every greater limit as well. -/
theorem filter_nearest_mono (d : Dictionary α) {word : Text} {t₁ t₂ : Binary64} (hle : t₁.le t₂ = true) {m : Match α}
    (h : (d.nearest word).filter (·.score.le t₁) = some m) : (d.nearest word).filter (·.score.le t₂) = some m := by
  rw [Option.filter_eq_some_iff] at h ⊢
  exact ⟨h.1, Binary64.le_trans h.2 hle⟩

/-- The best match of a word within a limit is its best match within every greater one. -/
theorem best_matching_mono [PatternEngine] (d : Dictionary α) {word : Text} {t₁ t₂ : Binary64}
    (hle : t₁.le t₂ = true) {m : Match α}
    (h : (d.matching word (.metric (.levenshtein .dissimilarity) t₁)).map Matches.best = .ok (some m)) :
    (d.matching word (.metric (.levenshtein .dissimilarity) t₂)).map Matches.best = .ok (some m) := by
  rw [best_matching, Except.ok.injEq] at h ⊢
  exact d.filter_nearest_mono hle h

/-- The nearest entry is within a limit of zero exactly if its key is the word, and then it is the entry with that
key. -/
theorem filter_nearest_zero (d : Dictionary α) {word : Text} (hword : word.length < Binary64.unitsPerOne) {t : Binary64}
    (ht : t.eq .zero = true) :
    ((d.nearest word).filter (·.score.le t)).map Match.entry = d.lookup? word := by
  obtain ⟨hle, hge⟩ := Bool.and_eq_true_iff.1 ht
  have hnear : ∀ key, (dissimilarity word key).le t = (key == word) := fun key => by
    rw [Bool.eq_iff_iff, beq_iff_eq, ← dissimilarity_le_zero_iff hword]
    exact ⟨fun h => Binary64.le_trans h hle, fun h => Binary64.le_trans h hge⟩
  -- All candidates within the limit have the same score.
  have hzero : ∀ m ∈ (d.entries.map (candidate word)).filter (·.score.le t), m.score = .zero := by
    intro m hm
    obtain ⟨hm, hscore⟩ := List.mem_filter.1 hm
    obtain ⟨e, -, rfl⟩ := List.mem_map.1 hm
    obtain rfl : e.key = word := beq_iff_eq.1 ((hnear e.key).symm.trans hscore)
    exact dissimilarity_self e.key
  have hbest : Matches.best ⟨(d.entries.map (candidate word)).filter (·.score.le t), false⟩ =
      ((d.entries.map (candidate word)).filter (·.score.le t)).head? := by
    refine Matches.best_eq_head? fun m hm n hn => ?_
    rw [hzero m hm, hzero n hn]
    decide
  have hkey : (fun m : Match α => m.score.le t) ∘ candidate word = fun e => e.key == word :=
    funext fun e => hnear e.key
  rw [← best_filter_candidate, hbest, List.head?_filter, List.find?_map, Option.map_map, hkey]
  exact Option.map_id'

/-- What a dictionary says about a word within a tolerance; without one the word must be a key. -/
def meaningWithin (d : Dictionary α) (tolerance : Option Binary64) (word : Text) : Option (Meaning α) :=
  match tolerance with
  | none => (d.lookup? word).map Stage.meaning
  | some t => ((d.nearest word).filter (·.score.le t)).map (Stage.meaning ·.entry)

/-- With no dissimilarity allowed a word is looked up as without a tolerance. -/
theorem meaningWithin_zero (d : Dictionary α) {word : Text} (hword : word.length < Binary64.unitsPerOne) {t : Binary64}
    (ht : t.eq .zero = true) : d.meaningWithin (some t) word = d.meaningWithin none word := by
  unfold meaningWithin
  rw [← filter_nearest_zero d hword ht, Option.map_map]
  rfl

/-- What is within a tolerance is within every greater one. -/
theorem meaningWithin_mono (d : Dictionary α) {t₁ t₂ : Binary64} (hle : t₁.le t₂ = true) {word : Text} {m : Meaning α}
    (h : d.meaningWithin (some t₁) word = some m) : d.meaningWithin (some t₂) word = some m := by
  unfold meaningWithin at h ⊢
  obtain ⟨n, hn, rfl⟩ := Option.map_eq_some_iff.1 h
  exact congrArg (Option.map (Stage.meaning ·.entry)) (d.filter_nearest_mono hle hn)

end Dictionary

end TextAnalysis
