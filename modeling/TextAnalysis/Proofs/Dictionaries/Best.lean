/-
# The best of several matches

The matches of a text are found in the order of the entries. The pass over them keeps a match that is at least as good
as all before it, so at its end it holds one with the best score of all: the first of these, unless it is told to prefer
a later one. Between matches whose scores differ nobody is asked.
-/
import Mathlib.Data.List.Induction
import TextAnalysis.Dictionary
import TextAnalysis.Pattern.Engine
import TextAnalysis.Proofs.Binary64
import TextAnalysis.Proofs.Outcomes

namespace TextAnalysis

variable {α : Type}

/-! ## Good scores -/

namespace Binary64

/-- Whether a score is at least as good as another one. -/
def asGood (gain : Bool) (x y : Binary64) : Bool :=
  if gain then y.le x else x.le y

variable {gain : Bool} {x y z : Binary64}

theorem asGood_trans (h : asGood gain x y = true) (h' : asGood gain y z = true) : asGood gain x z = true := by
  cases gain with
  | false => exact le_trans h h'
  | true => exact le_trans h' h

/-- Of two numbers one is at most as great as the other. -/
theorem le_total (hx : x ≠ nan) (hy : y ≠ nan) : x.le y = true ∨ y.le x = true := by
  rw [le_iff, le_iff]
  have hsides : (x.side < y.side ∨ x.side = y.side ∧ x.units ≤ y.units) ∨
      (y.side < x.side ∨ y.side = x.side ∧ y.units ≤ x.units) := by omega
  rcases hsides with h | h
  · exact .inl ⟨hx, hy, h⟩
  · exact .inr ⟨hy, hx, h⟩

theorem asGood_of_not (hx : x ≠ nan) (hy : y ≠ nan) (h : ¬ asGood gain x y = true) : asGood gain y x = true := by
  cases gain with
  | false => exact (le_total hx hy).resolve_left h
  | true => exact (le_total hy hx).resolve_left h

theorem asGood_refl (hx : x ≠ nan) : asGood gain x x = true := by
  by_contra h
  exact h (asGood_of_not hx hx h)

/-- Scores are equal if each is at least as good as the other. -/
theorem eq_eq_asGood (gain : Bool) (x y : Binary64) : x.eq y = (asGood gain x y && asGood gain y x) := by
  cases gain with
  | false => rfl
  | true => exact Bool.and_comm _ _

end Binary64

namespace Matches

/-- A match that is at least as good as all matches. -/
def IsBest (ms : Matches α) (b : Match α) : Prop :=
  b ∈ ms.list ∧ ∀ m ∈ ms.list, Binary64.asGood ms.gain b.score m.score = true

/-- The first match that is at least as good as all matches. -/
def IsFirstBest (ms : Matches α) (b : Match α) : Prop :=
  ms.IsBest b ∧ ∃ before after, ms.list = before ++ b :: after ∧
    ∀ m ∈ before, ¬ Binary64.asGood ms.gain m.score b.score = true

/-- There is only one first best match. -/
theorem IsFirstBest.unique {ms : Matches α} {b b' : Match α} (h : ms.IsFirstBest b) (h' : ms.IsFirstBest b') :
    b = b' := by
  obtain ⟨⟨hmem, hbest⟩, before, after, hlist, hbefore⟩ := h
  obtain ⟨⟨hmem', hbest'⟩, before', after', hlist', hbefore'⟩ := h'
  rcases List.append_eq_append_iff.1 (hlist.symm.trans hlist') with ⟨between, rfl, htail⟩ | ⟨between, rfl, htail⟩
  · cases between with
    | nil => exact (List.cons.inj htail).1
    | cons m between =>
      obtain ⟨rfl, -⟩ := List.cons.inj htail
      exact absurd (hbest b' hmem') (hbefore' b (by simp))
  · cases between with
    | nil => exact (List.cons.inj htail).1.symm
    | cons m between =>
      obtain ⟨rfl, -⟩ := List.cons.inj htail
      exact absurd (hbest' b hmem) (hbefore b' (by simp))

/-! ## One challenger -/

/-- Between scores that are equally good the tie-breaker is asked, and otherwise the better one stays. -/
theorem betterM_eq_asGood {m : Type → Type} [Monad m] (gain : Bool) (prefer : Match α → Match α → m Bool)
    (best later : Match α) : betterM gain prefer best later =
      if Binary64.asGood gain best.score later.score then
        if Binary64.asGood gain later.score best.score then do
          return if ← prefer best later then later else best
        else pure best
      else if Binary64.asGood gain later.score best.score then pure later else pure best := by
  have hbetter : (if gain then best.score.lt later.score else later.score.lt best.score) =
      (Binary64.asGood gain later.score best.score && !Binary64.asGood gain best.score later.score) := by
    cases gain <;> rfl
  unfold betterM
  dsimp only
  rw [Binary64.eq_eq_asGood gain, hbetter]
  cases Binary64.asGood gain best.score later.score <;> cases Binary64.asGood gain later.score best.score <;> rfl

/-- A tie-breaker that takes down the pairs it is asked about. -/
def noting {σ : Type} (prefer : Match α → Match α → StateM σ Bool) (best later : Match α) :
    StateM (σ × List (Match α × Match α)) Bool := fun (s, asked) =>
  let (answer, s') := (prefer best later).run s
  (answer, s', asked ++ [(best, later)])

/-- Pairs of matches with equal scores. -/
def Tied (pairs : List (Match α × Match α)) : Prop :=
  ∀ pair ∈ pairs, pair.1.score.eq pair.2.score = true

section

variable {σ : Type} (gain : Bool) (prefer : Match α → Match α → StateM σ Bool)

/-- Of the best match so far and a challenger one is left that is at least as good as both, and the tie-breaker is asked
about them only if their scores are equal. -/
theorem exists_run_betterM {best later : Match α} (hbest : best.score ≠ .nan) (hlater : later.score ≠ .nan) (s : σ)
    (asked : List (Match α × Match α)) :
    ∃ next s' pairs, (betterM gain prefer best later).run s = (next, s') ∧
      (betterM gain (noting prefer) best later).run (s, asked) = (next, s', asked ++ pairs) ∧ Tied pairs ∧
      (next = best ∨ next = later) ∧ Binary64.asGood gain next.score best.score = true ∧
      Binary64.asGood gain next.score later.score = true := by
  rw [betterM_eq_asGood, betterM_eq_asGood]
  -- A tie is where each is as good as the other; only there the tie-breaker is asked.
  by_cases hfirst : Binary64.asGood gain best.score later.score = true
  · by_cases hsecond : Binary64.asGood gain later.score best.score = true
    · have htied : Tied [(best, later)] := by
        intro pair hpair
        obtain rfl := List.mem_singleton.1 hpair
        rw [Binary64.eq_eq_asGood gain, hfirst, hsecond]
        rfl
      rw [if_pos hfirst, if_pos hsecond, if_pos hfirst, if_pos hsecond]
      refine ⟨_, _, [(best, later)], rfl, rfl, htied, ?_⟩
      split
      · exact ⟨.inr rfl, hsecond, Binary64.asGood_refl hlater⟩
      · exact ⟨.inl rfl, Binary64.asGood_refl hbest, hfirst⟩
    · rw [if_pos hfirst, if_neg hsecond, if_pos hfirst, if_neg hsecond]
      exact ⟨best, s, [], rfl, by rw [List.append_nil]; rfl, by simp [Tied], .inl rfl, Binary64.asGood_refl hbest, hfirst⟩
  · have hsecond := Binary64.asGood_of_not hbest hlater hfirst
    rw [if_neg hfirst, if_pos hsecond, if_neg hfirst, if_pos hsecond]
    exact ⟨later, s, [], rfl, by rw [List.append_nil]; rfl, by simp [Tied], .inr rfl, hsecond, Binary64.asGood_refl hlater⟩

/-- The pass over all challengers leaves a match that is at least as good as each of them. -/
theorem exists_run_foldlM {best : Match α} {later : List (Match α)} (hbest : best.score ≠ .nan)
    (hlater : ∀ m ∈ later, m.score ≠ .nan) (s : σ) (asked : List (Match α × Match α)) :
    ∃ b s' pairs, (later.foldlM (betterM gain prefer) best).run s = (b, s') ∧
      (later.foldlM (betterM gain (noting prefer)) best).run (s, asked) = (b, s', asked ++ pairs) ∧ Tied pairs ∧
      b ∈ best :: later ∧ ∀ m ∈ best :: later, Binary64.asGood gain b.score m.score = true := by
  induction later generalizing best s asked with
  | nil =>
    refine ⟨best, s, [], rfl, by rw [List.append_nil]; rfl, by simp [Tied], List.mem_cons_self .., ?_⟩
    exact List.forall_mem_singleton.2 (Binary64.asGood_refl hbest)
  | cons challenger later ih =>
    obtain ⟨hchallenger, hlater⟩ := List.forall_mem_cons.1 hlater
    obtain ⟨next, s₁, pairs₁, hrun₁, hnoting₁, htied₁, hnext, hgood, hgood'⟩ :=
      exists_run_betterM gain prefer hbest hchallenger s asked
    -- What is left of the first two goes on against the others, so its score is a number as well.
    have hnextNumber : next.score ≠ .nan := by
      rcases hnext with rfl | rfl
      · exact hbest
      · exact hchallenger
    obtain ⟨b, s₂, pairs₂, hrun₂, hnoting₂, htied₂, hb, hall⟩ := ih hnextNumber hlater s₁ (asked ++ pairs₁)
    obtain ⟨hbNext, hbLater⟩ := List.forall_mem_cons.1 hall
    refine ⟨b, s₂, pairs₁ ++ pairs₂, ?_, ?_, List.forall_mem_append.2 ⟨htied₁, htied₂⟩, ?_, ?_⟩
    · rw [List.foldlM_cons, StateT.run_bind, hrun₁]
      exact hrun₂
    · rw [List.foldlM_cons, StateT.run_bind, hnoting₁, ← List.append_assoc]
      exact hnoting₂
    · rcases List.mem_cons.1 hb with rfl | hb
      · rcases hnext with rfl | rfl <;> simp
      · simp [hb]
    · exact List.forall_mem_cons.2 ⟨Binary64.asGood_trans hbNext hgood,
        List.forall_mem_cons.2 ⟨Binary64.asGood_trans hbNext hgood', hbLater⟩⟩

/-- Whatever a tie-breaker prefers, what it leaves is one of the best matches, and it is only asked about ties. -/
theorem exists_run_bestByM {ms : Matches α} (hms : ∀ m ∈ ms.list, m.score ≠ .nan) (s : σ) :
    ∃ found s' asked, (ms.bestByM prefer).run s = (found, s') ∧
      (ms.bestByM (noting prefer)).run (s, []) = (found, s', asked) ∧ Tied asked ∧
      (found = none ↔ ms.list = []) ∧ ∀ b, found = some b → ms.IsBest b := by
  obtain ⟨list, gain⟩ := ms
  cases list with
  | nil => exact ⟨none, s, [], rfl, rfl, by simp [Tied], by simp, by simp⟩
  | cons first later =>
    obtain ⟨hfirst, hlater⟩ := List.forall_mem_cons.1 hms
    obtain ⟨b, s', asked, hrun, hnoting, htied, hb, hall⟩ :=
      exists_run_foldlM gain prefer hfirst hlater s []
    refine ⟨some b, s', asked, ?_, ?_, htied, by simp, ?_⟩
    · unfold bestByM
      rw [StateT.run_map, hrun]
      rfl
    · unfold bestByM
      rw [StateT.run_map, hnoting]
      rfl
    · intro b' hb'
      obtain rfl := Option.some.inj hb'
      exact ⟨hb, hall⟩

end

/-! ## The first one -/

/-- With one more match, the best is the best so far if that is at least as good. -/
theorem best_concat_eq {l : List (Match α)} {gain : Bool} {b later : Match α} (hb : best ⟨l, gain⟩ = some b)
    (hnumber : b.score ≠ .nan) (hlater : later.score ≠ .nan) : best ⟨l ++ [later], gain⟩ =
      some (if Binary64.asGood gain b.score later.score then b else later) := by
  cases l with
  | nil => cases hb
  | cons first l =>
    have hb : l.foldlM (m := Id) (betterM gain fun _ _ => pure false) first = pure b := Option.some.inj hb
    show some (Id.run ((l ++ [later]).foldlM (m := Id) (betterM gain fun _ _ => pure false) first)) = _
    rw [List.foldlM_append, hb, pure_bind, List.foldlM_cons]
    simp only [List.foldlM_nil, bind_pure]
    rw [betterM_eq_asGood]
    by_cases hgood : Binary64.asGood gain b.score later.score = true
    · rw [if_pos hgood, if_pos hgood]
      split <;> rfl
    · rw [if_neg hgood, if_neg hgood, if_pos (Binary64.asGood_of_not hnumber hlater hgood)]
      rfl

/-- Without a preference the first of the best matches is left. -/
theorem exists_best (gain : Bool) {l : List (Match α)} (hl : ∀ m ∈ l, m.score ≠ .nan) (hne : l ≠ []) :
    ∃ b, best ⟨l, gain⟩ = some b ∧ IsFirstBest ⟨l, gain⟩ b := by
  induction l using List.reverseRecOn with
  | nil => exact absurd rfl hne
  | append_singleton l later ih =>
    obtain ⟨hl, hlater⟩ := List.forall_mem_append.1 hl
    have hlater : later.score ≠ .nan := hlater later (List.mem_singleton.2 rfl)
    by_cases hnil : l = []
    · subst hnil
      refine ⟨later, rfl, ⟨List.mem_singleton.2 rfl, ?_⟩, [], [], rfl, by simp⟩
      exact List.forall_mem_singleton.2 (Binary64.asGood_refl hlater)
    · obtain ⟨b, hb, ⟨hmem, hbest⟩, before, after, hlist, hbefore⟩ := ih hl hnil
      have hlist : l = before ++ b :: after := hlist
      have hnumber : b.score ≠ .nan := hl b hmem
      refine ⟨_, best_concat_eq hb hnumber hlater, ?_⟩
      split
      · rename_i hgood
        refine ⟨⟨List.mem_append_left _ hmem, ?_⟩, before, after ++ [later], ?_, hbefore⟩
        · exact List.forall_mem_append.2 ⟨hbest, List.forall_mem_singleton.2 hgood⟩
        · rw [hlist, List.append_assoc, List.cons_append]
      · rename_i hgood
        -- The new match is better than the best so far, and so than all others.
        have hgood' := Binary64.asGood_of_not hnumber hlater hgood
        refine ⟨⟨List.mem_append_right _ (List.mem_singleton.2 rfl), ?_⟩, l, [], rfl, ?_⟩
        · exact List.forall_mem_append.2 ⟨fun m hm => Binary64.asGood_trans hgood' (hbest m hm),
            List.forall_mem_singleton.2 (Binary64.asGood_refl hlater)⟩
        · exact fun m hm hm' => hgood (Binary64.asGood_trans (hbest m hm) hm')

/-- The best match is the first of those with the best score. -/
theorem best_eq_some_iff {ms : Matches α} (hms : ∀ m ∈ ms.list, m.score ≠ .nan) {b : Match α} :
    ms.best = some b ↔ ms.IsFirstBest b := by
  constructor
  · intro h
    have hne : ms.list ≠ [] := by
      intro hnil
      unfold best bestBy bestByM at h
      rw [hnil] at h
      cases h
    obtain ⟨b', hb', hfirst⟩ := exists_best ms.gain hms hne
    obtain rfl : b' = b := Option.some.inj (hb'.symm.trans h)
    exact hfirst
  · intro h
    obtain ⟨b', hb', hfirst⟩ := exists_best ms.gain hms (List.ne_nil_of_mem h.1.1)
    rw [h.unique hfirst]
    exact hb'

theorem best_eq_none_iff {ms : Matches α} : ms.best = none ↔ ms.list = [] := by
  unfold best bestBy bestByM
  cases ms.list with
  | nil => exact iff_of_true rfl rfl
  | cons first later => exact iff_of_false (fun h => nomatch h) (List.cons_ne_nil first later)

end Matches

namespace Dictionary

/-! ## The order of the keys -/

theorem keys_putEntry (e : Entry α) (es : List (Entry α)) : (putEntry e es).map (·.key) =
    if e.key ∈ es.map (·.key) then es.map (·.key) else es.map (·.key) ++ [e.key] := by
  induction es with
  | nil => rfl
  | cons old rest ih =>
    rw [putEntry]
    by_cases hkey : old.key = e.key
    · rw [if_pos hkey, if_pos (by simp [hkey]), List.map_cons, List.map_cons, hkey]
    · rw [if_neg hkey, List.map_cons, ih, List.map_cons]
      by_cases hmem : e.key ∈ rest.map (·.key)
      · rw [if_pos hmem, if_pos (List.mem_cons_of_mem _ hmem)]
      · rw [if_neg hmem, if_neg (by simp [Ne.symm hkey, hmem]), List.cons_append]

/-- A new key comes after the others, and a key that is already there stays where it is. -/
theorem keys_add (d : Dictionary α) (e : Entry α) : (d.add e).entries.map (·.key) =
    if d.contains e.key then d.entries.map (·.key) else d.entries.map (·.key) ++ [e.key] := by
  have hcontains : d.contains e.key = true ↔ e.key ∈ d.entries.map (·.key) := by
    unfold contains lookup?
    rw [List.find?_isSome]
    simp
  rw [add, keys_putEntry]
  simp only [hcontains]

/-! ## Looking up -/

/-- What a way of scoring keys says of a key that it accepts. -/
def isAccepted : Except Error (Option Binary64) → Bool
  | .ok (some _) => true
  | _ => false

/-- The entries whose keys match a text by any way of scoring keys. -/
def matchingBy (d : Dictionary α) (text : Text) (score : Text → Except Error (Option Binary64)) (gain : Bool) :
    Except Error (Matches α) := do
  let found ← d.entries.mapM fun e => (score e.key).map fun found => found.map fun x => ⟨e, text, x⟩
  return ⟨found.filterMap id, gain⟩

theorem matching_eq_matchingBy [PatternEngine] (d : Dictionary α) (text : Text) (m : Matcher) :
    d.matching text m = d.matchingBy text (m.score text) m.isGain :=
  rfl

/-- The results of scoring entries one by one, without those that are no matches, are the accepted entries. -/
theorem matches_of_scores {text : Text} {score : Text → Except Error (Option Binary64)} {es : List (Entry α)}
    {found : List (Option (Match α))}
    (h : List.Forall₂ (fun e f => (score e.key).map (fun found => found.map fun x => (⟨e, text, x⟩ : Match α)) = .ok f)
      es found) :
    (found.filterMap id).map (·.entry) = es.filter (fun e => isAccepted (score e.key)) ∧
      ∀ m ∈ found.filterMap id, m.candidate = text ∧ score m.entry.key = .ok (some m.score) := by
  induction h with
  | nil => exact ⟨rfl, by simp⟩
  | @cons e f es found hf _ ih =>
    obtain ⟨hentries, hmatches⟩ := ih
    obtain ⟨x, hx, rfl⟩ := map_eq_ok.1 hf
    cases x with
    | none =>
      have hnot : isAccepted (score e.key) = false := by rw [hx]; rfl
      refine ⟨?_, hmatches⟩
      rw [List.filter_cons, if_neg (by simp [hnot])]
      exact hentries
    | some x =>
      have hyes : isAccepted (score e.key) = true := by rw [hx]; rfl
      refine ⟨?_, List.forall_mem_cons.2 ⟨⟨rfl, hx⟩, hmatches⟩⟩
      rw [List.filter_cons, if_pos hyes]
      exact congrArg (e :: ·) hentries

/-- A lookup fails as the first key does that cannot be scored, or it finds the accepted entries, in order. -/
theorem matchingBy_cases (d : Dictionary α) (text : Text) (score : Text → Except Error (Option Binary64))
    (gain : Bool) :
    match firstFailure (fun e => score e.key) d.entries with
    | some e => d.matchingBy text score gain = .error e
    | none => ∃ ms, d.matchingBy text score gain = .ok ms ∧ ms.gain = gain ∧
        ms.list.map (·.entry) = d.entries.filter (fun e => isAccepted (score e.key)) ∧
        ∀ m ∈ ms.list, m.candidate = text ∧ score m.entry.key = .ok (some m.score) := by
  rw [← firstFailure_map _ fun e found => found.map fun x => (⟨e, text, x⟩ : Match α)]
  unfold matchingBy
  split
  · rename_i e hfailure
    rw [mapM_eq_error_iff.2 hfailure]
    rfl
  · rename_i hfailure
    obtain ⟨found, hfound⟩ := exists_mapM_eq_ok_iff.2 (firstFailure_eq_none_iff.1 hfailure)
    obtain ⟨hentries, hmatches⟩ := matches_of_scores (mapM_eq_ok.1 hfound)
    exact ⟨⟨found.filterMap id, gain⟩, by rw [hfound]; rfl, rfl, hentries, hmatches⟩

/-- **The best match.** A lookup fails as the first key does that cannot be scored, or it finds the accepted entries in
the order in which their keys were first added, each with its score. The best of them is the first one with the best
score, and there is none only if nothing is found. Whatever a tie-breaker prefers, and whatever it remembers from one
call to the next, what it leaves has the best score as well, and it is only asked about matches with equal scores. -/
theorem matching_firstBest [PatternEngine] (d : Dictionary α) (text : Text)
    (score : Text → Except Error (Option Binary64)) (gain : Bool)
    (hnumbers : ∀ e ∈ d.entries, score e.key ≠ .ok (some .nan)) :
    (∀ m : Matcher, d.matching text m = d.matchingBy text (m.score text) m.isGain) ∧
    (∀ e : Entry α, (d.add e).entries.map (·.key) =
      if d.contains e.key then d.entries.map (·.key) else d.entries.map (·.key) ++ [e.key]) ∧
    match firstFailure (fun e => score e.key) d.entries with
    | some e => d.matchingBy text score gain = .error e
    | none => ∃ ms, d.matchingBy text score gain = .ok ms ∧ ms.gain = gain ∧
        ms.list.map (·.entry) = d.entries.filter (fun e => isAccepted (score e.key)) ∧
        (∀ m ∈ ms.list, m.candidate = text ∧ score m.entry.key = .ok (some m.score)) ∧
        (ms.best = none ↔ ms.list = []) ∧ (∀ b, ms.best = some b ↔ ms.IsFirstBest b) ∧
        ∀ (σ : Type) (prefer : Match α → Match α → StateM σ Bool) (s : σ), ∃ found s' asked,
          (ms.bestByM prefer).run s = (found, s') ∧
          (ms.bestByM (Matches.noting prefer)).run (s, []) = (found, s', asked) ∧ Matches.Tied asked ∧
          (found = none ↔ ms.list = []) ∧ ∀ b, found = some b → ms.IsBest b := by
  refine ⟨d.matching_eq_matchingBy text, d.keys_add, ?_⟩
  have hcases := d.matchingBy_cases text score gain
  split
  · rename_i e hfailure
    rw [hfailure] at hcases
    exact hcases
  · rename_i hfailure
    rw [hfailure] at hcases
    obtain ⟨ms, hms, hgain, hentries, hmatches⟩ := hcases
    -- The matches come from entries, and no entry is scored with something that is not a number.
    have hnan : ∀ m ∈ ms.list, m.score ≠ .nan := by
      intro m hm hscore
      have he : m.entry ∈ d.entries := by
        have hmem : m.entry ∈ ms.list.map (·.entry) := List.mem_map_of_mem hm
        rw [hentries] at hmem
        exact (List.mem_filter.1 hmem).1
      exact hnumbers m.entry he (hscore ▸ (hmatches m hm).2)
    exact ⟨ms, hms, hgain, hentries, hmatches, Matches.best_eq_none_iff, fun b => Matches.best_eq_some_iff hnan,
      fun σ prefer s => Matches.exists_run_bestByM prefer hnan s⟩

/-- Words of three letters. -/
def threeWords : Dictionary Nat :=
  .ofList [⟨"cat".toList, 1, none⟩, ⟨"dog".toList, 2, none⟩, ⟨"bat".toList, 3, none⟩]

/-- The words that one edit leads to. -/
def nearWords : Matches Nat :=
  ⟨[⟨⟨"cat".toList, 1, none⟩, "rat".toList, .one⟩, ⟨⟨"bat".toList, 3, none⟩, "rat".toList, .one⟩], false⟩

/-- Two words are as near as each other to a third. The first of them is the best match, and a tie-breaker that always
prefers the later word leaves one of the best as well. -/
theorem matching_firstBest_tied :
    (∀ e ∈ threeWords.entries, Matcher.score (.metric (.levenshtein .distance) .one) "rat".toList e.key ≠
      .ok (some .nan)) ∧
    threeWords.matching "rat".toList (.metric (.levenshtein .distance) .one) = .ok nearWords ∧
      nearWords.IsFirstBest ⟨⟨"cat".toList, 1, none⟩, "rat".toList, .one⟩ ∧
      nearWords.IsBest ⟨⟨"bat".toList, 3, none⟩, "rat".toList, .one⟩ := by
  have hnumbers : ∀ e ∈ threeWords.entries,
      Matcher.score (.metric (.levenshtein .distance) .one) "rat".toList e.key ≠ .ok (some .nan) := by
    decide +kernel
  have hmatching : threeWords.matching "rat".toList (.metric (.levenshtein .distance) .one) = .ok nearWords := by
    decide +kernel
  have hnone : firstFailure (fun e => Matcher.score (.metric (.levenshtein .distance) .one) "rat".toList e.key)
      threeWords.entries = none := by decide +kernel
  have hcases := (matching_firstBest threeWords "rat".toList _ false hnumbers).2.2
  rw [hnone] at hcases
  obtain ⟨ms, hms, -, -, -, -, hbest, hties⟩ := hcases
  obtain rfl : nearWords = ms := Except.ok.inj (hmatching.symm.trans hms)
  obtain ⟨found, _, _, hrun, -, -, -, hfound⟩ := hties Unit (fun _ _ => pure true) ()
  have hlater : Id.run ((nearWords.bestByM (m := StateM Unit) fun _ _ => pure true).run ()) =
      (some ⟨⟨"bat".toList, 3, none⟩, "rat".toList, .one⟩, ()) := by decide +kernel
  exact ⟨hnumbers, hmatching, (hbest _).1 (by decide +kernel),
    hfound _ (congrArg Prod.fst (hrun.symm.trans hlater))⟩

end Dictionary

end TextAnalysis
