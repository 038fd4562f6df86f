/-
# Shared caches

Pattern matchers are made and cloned, and they score candidates for keys. A clone shares the cache of the matcher that
it was cloned from, and every score by way of a cache may put a pattern into it. Whatever was done before, a score is
the one of a new matcher, and a cache has the patterns of just those keys that were scored by way of it and have one.
-/
import Mathlib.Data.Finset.Card
import TextAnalysis.Dictionary.Matcher
import TextAnalysis.Pattern.Engine

namespace TextAnalysis

/-! ## Cached patterns -/

section

variable [PatternEngine]

theorem Matcher.keyPattern_error {key : Text} {e : Error} (h : keyPattern key = .error e) :
    ∃ reason, e = .argument (.badKeyPattern key reason) := by
  unfold keyPattern at h
  split at h
  · cases h
  · rename_i reason _
    cases h
    exact ⟨reason, rfl⟩

namespace PatternCache

/-- Every key of a cache is there with its own pattern. -/
def Sound (c : PatternCache) : Prop :=
  ∀ x ∈ c.compiled, Matcher.keyPattern x.1 = .ok x.2

theorem sound_empty : Sound {} :=
  fun _ h => nomatch h

/-- A sound cache gives the pattern of a key and stays sound. It has the key then if the key has a pattern, and is the
same as before if not. -/
theorem Sound.get {c : PatternCache} (h : c.Sound) (key : Text) : (c.get key).1 = Matcher.keyPattern key ∧
    (c.get key).2.Sound ∧
    ((∃ q, (key, q) ∈ (c.get key).2.compiled) ↔ ∃ q, Matcher.keyPattern key = .ok q) ∧
    ((¬ ∃ q, Matcher.keyPattern key = .ok q) → (c.get key).2 = c) := by
  unfold PatternCache.get
  split
  · rename_i k q hfind
    have hkey : k = key := by simpa using List.find?_some hfind
    have hmem := List.mem_of_find?_eq_some hfind
    rw [hkey] at hmem
    have hq := h _ hmem
    exact ⟨hq.symm, h, ⟨fun _ => ⟨q, hq⟩, fun _ => ⟨q, hmem⟩⟩, fun _ => rfl⟩
  · split
    · rename_i q hq
      have hkept : (key, q) ∈ c.compiled ++ [(key, q)] := List.mem_append_right _ (List.mem_singleton_self _)
      refine ⟨hq.symm, List.forall_mem_append.2 ⟨h, List.forall_mem_singleton.2 hq⟩, ?_, fun hnone => ?_⟩
      · exact ⟨fun _ => ⟨q, hq⟩, fun _ => ⟨q, hkept⟩⟩
      · exact absurd ⟨q, hq⟩ hnone
    · rename_i e he
      refine ⟨he.symm, h, exists_congr fun q => ⟨fun hmem => ?_, fun hq => ?_⟩, fun _ => rfl⟩
      · exact h _ hmem
      · cases he.symm.trans hq

end PatternCache

/-- By way of a sound cache a pattern matcher scores as without one. -/
theorem Matcher.scoreCached_pattern {c : PatternCache} (h : c.Sound) (candidate key : Text) :
    (pattern.scoreCached c candidate key).1 = pattern.score candidate key ∧
      (pattern.scoreCached c candidate key).2 = (c.get key).2 := by
  refine ⟨?_, rfl⟩
  rw [score, ← (h.get key).1]
  rfl

end

/-! ## Keys of a cache -/

namespace PatternCache

/-- The keys with a pattern in a cache. -/
def keys (c : PatternCache) : List Text :=
  c.compiled.map (·.1)

theorem size_eq_length_keys (c : PatternCache) : c.size = c.keys.length :=
  (List.length_map ..).symm

/-- A key that was asked for comes to the others if it is a new one with a pattern. -/
theorem keys_get [PatternEngine] (c : PatternCache) (key : Text) :
    (c.get key).2.keys =
      if key ∉ c.keys ∧ (Matcher.keyPattern key).isOk = true then c.keys ++ [key] else c.keys := by
  unfold get
  split
  · rename_i k p hfind
    have hkey : k = key := by simpa using List.find?_some hfind
    have hmem : key ∈ c.keys := by
      rw [← hkey]
      exact List.mem_map_of_mem (List.mem_of_find?_eq_some hfind)
    rw [if_neg fun h => h.1 hmem]
  · rename_i hfind
    have hnew : key ∉ c.keys := by
      intro hmem
      obtain ⟨x, hx, hkey⟩ := List.mem_map.1 hmem
      exact List.find?_eq_none.1 hfind x hx (beq_iff_eq.2 hkey)
    cases hpattern : Matcher.keyPattern key with
    | ok p =>
      rw [if_pos ⟨hnew, rfl⟩]
      exact List.map_append
    | error e => rw [if_neg fun h => nomatch h.2]

end PatternCache

/-! ## Matchers that share caches -/

/-- What is done with pattern matchers: one is made, one is cloned, or one scores a candidate for a key. They are
numbered in the order in which they came to be. -/
inductive MatcherUse where
  | make
  | clone (matcher : Nat)
  | score (matcher : Nat) (candidate key : Text)

/-- A score: the cache by way of which it was found, the candidate and the key, the answer, and the number of patterns
in the cache after it. -/
structure Scored where
  cache : Nat
  candidate : Text
  key : Text
  answer : Except Error (Option Binary64)
  cached : Nat

/-- Pattern matchers, given by the numbers of their caches, with the caches and all scores so far. -/
structure Matchers where
  holders : List Nat := []
  caches : List PatternCache := []
  scores : List Scored := []

namespace Matchers

variable {w : Matchers} {n k : Nat} {candidate key : Text}

/-- A new matcher, which gets a cache of its own. -/
def make (w : Matchers) : Matchers :=
  { w with holders := w.holders ++ [w.caches.length], caches := w.caches ++ [{}] }

/-- A clone of a matcher, which shares its cache. -/
def clone (w : Matchers) (n : Nat) : Matchers :=
  match w.holders[n]? with
  | some k => { w with holders := w.holders ++ [k] }
  | none => w

section

variable [PatternEngine]

/-- A score by way of the cache of a matcher. -/
def score (w : Matchers) (n : Nat) (candidate key : Text) : Matchers :=
  match w.holders[n]? with
  | some k =>
    match w.caches[k]? with
    | some cache =>
      let (answer, cache) := Matcher.pattern.scoreCached cache candidate key
      { w with
        caches := w.caches.set k cache
        scores := w.scores ++ [⟨k, candidate, key, answer, cache.size⟩] }
    | none => w
  | none => w

/-- The matchers after one of them was used. Nothing can be done with a matcher that is not there. -/
def use (w : Matchers) : MatcherUse → Matchers
  | .make => w.make
  | .clone n => w.clone n
  | .score n candidate key => w.score n candidate key

/-- The matchers after several uses, from none. -/
def run (uses : List MatcherUse) : Matchers :=
  uses.foldl use {}

theorem run_concat (uses : List MatcherUse) (u : MatcherUse) : run (uses ++ [u]) = (run uses).use u :=
  List.foldl_concat ..

/-- The keys with a pattern that were scored by way of a cache. -/
def keysWithPattern (k : Nat) (scores : List Scored) : List Text :=
  ((scores.filter (·.cache == k)).map (·.key)).filter fun key => (Matcher.keyPattern key).isOk

theorem keysWithPattern_concat (k : Nat) (scores : List Scored) (x : Scored) :
    keysWithPattern k (scores ++ [x]) = keysWithPattern k scores ++
      if x.cache = k ∧ (Matcher.keyPattern x.key).isOk = true then [x.key] else [] := by
  unfold keysWithPattern
  rw [List.filter_append, List.map_append, List.filter_append]
  congr 1
  by_cases hcache : x.cache = k
  · by_cases hkey : (Matcher.keyPattern x.key).isOk = true
    · simp [hcache, hkey]
    · simp [hcache, hkey]
  · simp [hcache]

/-! ## What every use keeps -/

/-- A cache has the keys with a pattern that were scored by way of it, each once and with its pattern. -/
structure HasKeys (scores : List Scored) (k : Nat) (c : PatternCache) : Prop where
  sound : c.Sound
  nodup : c.keys.Nodup
  mem_iff : ∀ key, key ∈ c.keys ↔ key ∈ keysWithPattern k scores

/-- Every matcher has a cache that is there, and so has every score. The caches have the keys of their scores. -/
structure Coherent (w : Matchers) : Prop where
  holders_lt : ∀ k ∈ w.holders, k < w.caches.length
  scores_lt : ∀ x ∈ w.scores, x.cache < w.caches.length
  hasKeys : ∀ k c, w.caches[k]? = some c → HasKeys w.scores k c

/-- There are as many patterns in a cache as different keys with a pattern. -/
theorem HasKeys.size_eq {scores : List Scored} {c : PatternCache} (h : HasKeys scores k c) :
    c.size = (keysWithPattern k scores).toFinset.card := by
  have hkeys : c.keys.toFinset = (keysWithPattern k scores).toFinset := by
    ext key
    rw [List.mem_toFinset, List.mem_toFinset]
    exact h.mem_iff key
  rw [c.size_eq_length_keys, ← hkeys, List.toFinset_card_of_nodup h.nodup]

/-- The cache by way of which a key is scored still has the keys of its scores. -/
theorem HasKeys.get {scores : List Scored} {c : PatternCache} (h : HasKeys scores k c) {x : Scored}
    (hx : x.cache = k) : HasKeys (scores ++ [x]) k (c.get x.key).2 := by
  constructor
  · exact (h.sound.get x.key).2.1
  · rw [PatternCache.keys_get]
    split
    · rename_i hnew
      exact List.nodup_append_comm.1 (List.nodup_cons.2 ⟨hnew.1, h.nodup⟩)
    · exact h.nodup
  · intro key
    rw [PatternCache.keys_get, keysWithPattern_concat, List.mem_append, ← h.mem_iff key]
    by_cases hpattern : (Matcher.keyPattern x.key).isOk = true
    · by_cases hmem : x.key ∈ c.keys
      · rw [if_neg fun hnew => hnew.1 hmem, if_pos ⟨hx, hpattern⟩, List.mem_singleton]
        exact ⟨.inl, fun hor => hor.elim id fun heq => heq ▸ hmem⟩
      · rw [if_pos ⟨hmem, hpattern⟩, if_pos ⟨hx, hpattern⟩, List.mem_append]
    · rw [if_neg fun hnew => hpattern hnew.2, if_neg fun hnew => hpattern hnew.2]
      simp

/-- A score by way of another cache makes no difference. -/
theorem HasKeys.concat {scores : List Scored} {c : PatternCache} (h : HasKeys scores k c) {x : Scored}
    (hx : x.cache ≠ k) : HasKeys (scores ++ [x]) k c := by
  refine ⟨h.sound, h.nodup, fun key => ?_⟩
  rw [keysWithPattern_concat, if_neg fun hnew => hx hnew.1, List.append_nil]
  exact h.mem_iff key

/-- What a score does: it is answered as by a new matcher, and its cache is asked for the pattern of the key. -/
theorem Coherent.score_eq (h : w.Coherent) (hholder : w.holders[n]? = some k) (candidate key : Text) :
    ∃ c, w.caches[k]? = some c ∧ w.score n candidate key =
      { w with
        caches := w.caches.set k (c.get key).2
        scores := w.scores ++
          [⟨k, candidate, key, Matcher.pattern.score candidate key, (c.get key).2.size⟩] } := by
  have hlt := h.holders_lt k (List.mem_of_getElem? hholder)
  have hcache : w.caches[k]? = some w.caches[k] := List.getElem?_eq_getElem hlt
  have hsound := (h.hasKeys k _ hcache).sound
  refine ⟨_, hcache, ?_⟩
  unfold Matchers.score
  rw [hholder]
  dsimp only
  rw [hcache]
  dsimp only
  rw [(Matcher.scoreCached_pattern hsound candidate key).1]
  rfl

theorem coherent_empty : Coherent {} := by
  constructor
  · intro k hk
    cases hk
  · intro x hx
    cases hx
  · intro k c hc
    cases hc

theorem Coherent.make (h : w.Coherent) : w.make.Coherent := by
  have hlength : w.make.caches.length = w.caches.length + 1 := List.length_append
  constructor
  · intro k hk
    rw [hlength]
    rcases List.mem_append.1 hk with hk | hk
    · exact Nat.lt_succ_of_lt (h.holders_lt k hk)
    · obtain rfl := List.mem_singleton.1 hk
      exact Nat.lt_succ_self _
  · intro x hx
    rw [hlength]
    exact Nat.lt_succ_of_lt (h.scores_lt x hx)
  · intro k c hc
    unfold Matchers.make at hc
    dsimp only at hc
    rw [List.getElem?_append] at hc
    split at hc
    · exact h.hasKeys k c hc
    · obtain rfl := List.mem_singleton.1 (List.mem_of_getElem? hc)
      refine ⟨PatternCache.sound_empty, .nil, fun key => ?_⟩
      -- No score can have gone by way of a cache that was not there.
      have hnone : w.scores.filter (·.cache == k) = [] := by
        refine List.filter_eq_nil_iff.2 fun x hx heq => ?_
        have hlt := h.scores_lt x hx
        rw [beq_iff_eq.1 heq] at hlt
        omega
      show key ∈ [] ↔ key ∈ keysWithPattern k w.scores
      unfold keysWithPattern
      rw [hnone]
      exact Iff.rfl

theorem Coherent.clone (h : w.Coherent) (n : Nat) : (w.clone n).Coherent := by
  unfold Matchers.clone
  split
  · rename_i k hk
    refine ⟨fun k' hk' => ?_, h.scores_lt, h.hasKeys⟩
    rcases List.mem_append.1 hk' with hk' | hk'
    · exact h.holders_lt k' hk'
    · obtain rfl := List.mem_singleton.1 hk'
      exact h.holders_lt k' (List.mem_of_getElem? hk)
  · exact h

theorem Coherent.score (h : w.Coherent) (n : Nat) (candidate key : Text) : (w.score n candidate key).Coherent := by
  cases hholder : w.holders[n]? with
  | none =>
    unfold Matchers.score
    rw [hholder]
    exact h
  | some k =>
    obtain ⟨c, hc, hscore⟩ := h.score_eq hholder candidate key
    rw [hscore]
    constructor
    · intro k' hk'
      rw [List.length_set]
      exact h.holders_lt k' hk'
    · intro x hx
      rw [List.length_set]
      rcases List.mem_append.1 hx with hx | hx
      · exact h.scores_lt x hx
      · obtain rfl := List.mem_singleton.1 hx
        exact h.holders_lt k (List.mem_of_getElem? hholder)
    · -- Only the cache that was asked has changed. For the others the new score is of no account.
      intro k' c' hc'
      dsimp only at hc' ⊢
      rw [List.getElem?_set] at hc'
      by_cases hkk : k = k'
      · subst hkk
        rw [if_pos rfl] at hc'
        split at hc'
        · cases hc'
          exact (h.hasKeys k c hc).get rfl
        · cases hc'
      · rw [if_neg hkk] at hc'
        exact (h.hasKeys k' c' hc').concat hkk

theorem coherent_run (uses : List MatcherUse) : (run uses).Coherent := by
  induction uses using List.reverseRecOn with
  | nil => exact coherent_empty
  | append_singleton uses u ih =>
    rw [run_concat]
    cases u with
    | make => exact ih.make
    | clone n => exact ih.clone n
    | score n candidate key => exact ih.score n candidate key

/-! ## Scores -/

/-- **Shared caches are invisible.** Whatever was done with pattern matchers before, a matcher scores a candidate for a
key as a new one does, whose cache is empty. After it the cache that it shares with its clones has as many patterns as
different keys with a pattern were scored by way of it, this one included, and the other caches are as before. A key
without a pattern is reported as such every time, and leaves all caches as they are. -/
theorem run_scoresFresh (uses : List MatcherUse) {n k : Nat} (h : (run uses).holders[n]? = some k)
    (candidate key : Text) :
    (run (uses ++ [.clone n])).holders = (run uses).holders ++ [k] ∧
    ∃ x, (run (uses ++ [.score n candidate key])).scores = (run uses).scores ++ [x] ∧
      x.cache = k ∧ x.candidate = candidate ∧ x.key = key ∧
      x.answer = (Matcher.pattern.scoreCached {} candidate key).1 ∧
      x.answer = Matcher.pattern.score candidate key ∧
      x.cached = (keysWithPattern k ((run uses).scores ++ [x])).toFinset.card ∧
      (∃ c, (run (uses ++ [.score n candidate key])).caches = (run uses).caches.set k c ∧ x.cached = c.size ∧
        ∀ key', key' ∈ c.keys ↔ key' ∈ keysWithPattern k ((run uses).scores ++ [x])) ∧
      ∀ e, Matcher.keyPattern key = .error e → x.answer = .error e ∧
        (run (uses ++ [.score n candidate key])).caches = (run uses).caches := by
  have hcoherent := coherent_run uses
  obtain ⟨c, hc, hscore⟩ := hcoherent.score_eq h candidate key
  have hclone : (run (uses ++ [.clone n])).holders = (run uses).holders ++ [k] := by
    rw [run_concat, use, Matchers.clone, h]
  refine ⟨hclone, ?_⟩
  rw [run_concat, use, hscore]
  have hkeys := (hcoherent.hasKeys k c hc).get
    (x := ⟨k, candidate, key, Matcher.pattern.score candidate key, (c.get key).2.size⟩) rfl
  have hfresh := (Matcher.scoreCached_pattern PatternCache.sound_empty candidate key).1
  refine ⟨_, rfl, rfl, rfl, rfl, hfresh.symm, rfl, hkeys.size_eq, ⟨_, rfl, rfl, hkeys.mem_iff⟩, fun e he => ⟨?_, ?_⟩⟩
  · show Matcher.pattern.score candidate key = _
    unfold Matcher.score
    rw [he]
    rfl
  · -- A key without a pattern is not put into the cache.
    have hsame : (c.get key).2 = c := by
      refine ((hcoherent.hasKeys k c hc).sound.get key).2.2.2 ?_
      rintro ⟨p, hp⟩
      cases hp.symm.trans he
    obtain ⟨hlt, rfl⟩ := List.getElem?_eq_some_iff.1 hc
    dsimp only
    rw [hsame, List.set_getElem_self]

end

/-- A matcher that scores for a key with a pattern and for one without, and a clone of it. -/
def clonedMatcher : List MatcherUse :=
  [.make, .score 0 ['7'] ['7'], .score 0 ['x'] ['('], .clone 0]

/-- The clone reports the key without a pattern once more, and there still is one pattern. -/
theorem run_scoresFresh_clonedMatcher :
    (run clonedMatcher).holders[1]? = some 0 ∧
      ∃ x, (run (clonedMatcher ++ [.score 1 ['x'] ['(']])).scores = (run clonedMatcher).scores ++ [x] ∧
        x.answer = (Matcher.pattern.scoreCached {} ['x'] ['(']).1 ∧
        (∃ e, x.answer = .error (.argument (.badKeyPattern ['('] e))) ∧ x.cached = 1 := by
  obtain ⟨-, x, hscores, -, -, hkey, hfresh, -, hcached, -, hfails⟩ :=
    run_scoresFresh clonedMatcher (show (run clonedMatcher).holders[1]? = some 0 from rfl) ['x'] ['(']
  obtain ⟨e, he⟩ : ∃ e, Matcher.keyPattern ['('] = .error (.argument (.badKeyPattern ['('] e)) := ⟨_, rfl⟩
  have hkeys : keysWithPattern 0 ((run clonedMatcher).scores ++ [x]) = [['7']] := by
    have hbefore : keysWithPattern 0 (run clonedMatcher).scores = [['7']] := by decide +kernel
    rw [keysWithPattern_concat, hbefore, hkey, he, if_neg fun h => nomatch h.2]
    rfl
  refine ⟨rfl, x, hscores, hfresh, ⟨e, (hfails _ he).1⟩, ?_⟩
  rw [hcached, hkeys]
  rfl

end Matchers

end TextAnalysis
