/-
# Sorting by position

A token is put at each of its positions, and a later one takes the place of an earlier one. So what stands at a position
is the last token that has it. Tokens without common positions do not compete for a place: their order makes no
difference, each stands once at each of its positions, and sorting them again changes nothing.
-/
import Mathlib.Data.List.Flatten
import Mathlib.Data.List.Induction
import Mathlib.Data.List.Nodup
import Mathlib.Data.List.Pairwise
import TextAnalysis.Proofs.Positions
import TextAnalysis.Sequence

namespace TextAnalysis.Sequence

variable {α : Type} [Token α] {tokens tokens' : List α} {k : Nat} {t : α}

/-! ## The last token with a position -/

/-- The last of some tokens that have a position. -/
def lastWith (tokens : List α) (k : Nat) : Option α :=
  (tokens.filter fun t => k ∈ Token.positions t).getLast?

theorem lastWith_concat (tokens : List α) (t : α) (k : Nat) :
    lastWith (tokens ++ [t]) k = if k ∈ Token.positions t then some t else lastWith tokens k := by
  unfold lastWith
  rw [List.filter_append]
  by_cases hk : k ∈ Token.positions t
  · simp [hk]
  · simp [hk]

theorem mem_of_lastWith (h : lastWith tokens k = some t) : t ∈ tokens ∧ k ∈ Token.positions t := by
  obtain ⟨hmem, hk⟩ := List.mem_filter.1 (List.mem_of_getLast? h)
  exact ⟨hmem, of_decide_eq_true hk⟩

theorem exists_lastWith_iff : (∃ t, lastWith tokens k = some t) ↔ ∃ t ∈ tokens, k ∈ Token.positions t := by
  constructor
  · rintro ⟨t, h⟩
    exact ⟨t, mem_of_lastWith h⟩
  · rintro ⟨t, ht, hk⟩
    have hmem : t ∈ tokens.filter fun t => k ∈ Token.positions t := List.mem_filter.2 ⟨ht, decide_eq_true hk⟩
    exact ⟨_, List.getLast?_eq_some_getLast (List.ne_nil_of_mem hmem)⟩

/-! ## Putting tokens at their positions -/

omit [Token α] in
/-- A token is found at each of its positions after it was put there, and elsewhere what was found before. -/
theorem get?_foldl_put (l : List Nat) (t : α) (placed : Numbered α) (k : Nat) :
    (l.foldl (fun placed p => placed.put p t) placed).get? k = if k ∈ l then some t else placed.get? k := by
  induction l generalizing placed with
  | nil => simp
  | cons n l ih =>
    rw [List.foldl_cons, ih, Numbered.get?_put]
    by_cases hl : k ∈ l
    · simp [hl]
    · simp [hl]

theorem get?_place (placed : Numbered α) (t : α) (k : Nat) :
    (place placed t).get? k = if k ∈ Token.positions t then some t else placed.get? k :=
  get?_foldl_put _ t placed k

/-- What is found at a position is the last token that has it. -/
theorem get?_foldl_place (tokens : List α) (k : Nat) :
    (tokens.foldl place .empty).get? k = lastWith tokens k := by
  induction tokens using List.reverseRecOn with
  | nil => rfl
  | append_singleton tokens t ih => rw [List.foldl_concat, get?_place, ih, lastWith_concat]

theorem mem_entries_iff : (k, t) ∈ (tokens.foldl place .empty).entries ↔ lastWith tokens k = some t := by
  rw [← Numbered.get?_eq_some_iff, get?_foldl_place]

/-- The positions at which there is a token. -/
def occupied (tokens : List α) : Positions :=
  ⟨(tokens.foldl place .empty).numbers, (tokens.foldl place .empty).ascending⟩

theorem mem_occupied : k ∈ occupied tokens ↔ ∃ t ∈ tokens, k ∈ Token.positions t := by
  show k ∈ (tokens.foldl place .empty).numbers ↔ _
  rw [Numbered.mem_numbers_iff, get?_foldl_place, exists_lastWith_iff]

theorem map_some_sorted (tokens : List α) :
    (sorted tokens).tokens.map some = (occupied tokens).toList.map (lastWith tokens) := by
  show (tokens.foldl place .empty).values.map some = _
  rw [Numbered.map_some_values]
  exact List.map_congr_left fun k _ => get?_foldl_place tokens k

/-! ## Tokens without common positions -/

/-- No two of some tokens have a position in common. -/
def Apart (tokens : List α) : Prop :=
  tokens.Pairwise fun t u => ∀ k, k ∈ Token.positions t → k ∉ Token.positions u

namespace Apart

/-- There is only one token with a position. -/
theorem unique (h : Apart tokens) {u : α} (ht : t ∈ tokens) (hu : u ∈ tokens) (hkt : k ∈ Token.positions t)
    (hku : k ∈ Token.positions u) : t = u := by
  by_contra hne
  have hsymm : Std.Symm fun t u : α => ∀ k, k ∈ Token.positions t → k ∉ Token.positions u :=
    ⟨fun _ _ hapart k hu ht => hapart k ht hu⟩
  exact h.forall ht hu hne k hkt hku

theorem lastWith_eq_some_iff (h : Apart tokens) :
    lastWith tokens k = some t ↔ t ∈ tokens ∧ k ∈ Token.positions t := by
  refine ⟨mem_of_lastWith, fun ⟨ht, hk⟩ => ?_⟩
  obtain ⟨u, hu⟩ := exists_lastWith_iff.2 ⟨t, ht, hk⟩
  obtain ⟨hmem, hku⟩ := mem_of_lastWith hu
  rw [hu, h.unique ht hmem hk hku]

theorem perm (h : Apart tokens) (hperm : tokens'.Perm tokens) : Apart tokens' := by
  have hsymm : ∀ {t u : α}, (∀ k, k ∈ Token.positions t → k ∉ Token.positions u) →
      ∀ k, k ∈ Token.positions u → k ∉ Token.positions t := fun hapart k hu ht => hapart k ht hu
  exact (hperm.pairwise_iff hsymm).2 h

end Apart

/-- Tokens that have the same last one for every position are sorted in the same way. -/
theorem sorted_congr (h : ∀ k, lastWith tokens k = lastWith tokens' k) : sorted tokens = sorted tokens' := by
  have hplaced : tokens.foldl place Numbered.empty = tokens'.foldl place .empty :=
    Numbered.ext_get? fun k => by rw [get?_foldl_place, get?_foldl_place, h]
  unfold sorted
  rw [hplaced]

/-- The order of tokens without common positions makes no difference. -/
theorem sorted_perm (h : Apart tokens) (hperm : tokens'.Perm tokens) : sorted tokens' = sorted tokens := by
  refine sorted_congr fun k => Option.ext fun t => ?_
  rw [(h.perm hperm).lastWith_eq_some_iff, h.lastWith_eq_some_iff, hperm.mem_iff]

theorem mem_sorted : t ∈ (sorted tokens).tokens ↔ ∃ k, lastWith tokens k = some t := by
  have hmem : t ∈ (sorted tokens).tokens ↔ some t ∈ (sorted tokens).tokens.map some := by simp
  rw [hmem, map_some_sorted, List.mem_map]
  constructor
  · rintro ⟨k, -, hk⟩
    exact ⟨k, hk⟩
  · rintro ⟨k, hk⟩
    exact ⟨k, mem_occupied.2 ⟨t, mem_of_lastWith hk⟩, hk⟩

/-- Sorted again, tokens without common positions stay in their places. -/
theorem sorted_sorted (h : Apart tokens) : sorted (sorted tokens).tokens = sorted tokens := by
  have hfrom : ∀ k t, lastWith (sorted tokens).tokens k = some t → lastWith tokens k = some t := by
    intro k t hlast
    obtain ⟨hmem, hk⟩ := mem_of_lastWith hlast
    obtain ⟨l, hl⟩ := mem_sorted.1 hmem
    exact h.lastWith_eq_some_iff.2 ⟨(mem_of_lastWith hl).1, hk⟩
  refine sorted_congr fun k => Option.ext fun t => ⟨hfrom k t, fun hlast => ?_⟩
  obtain ⟨u, hu⟩ := exists_lastWith_iff.2 ⟨t, mem_sorted.2 ⟨k, hlast⟩, (mem_of_lastWith hlast).2⟩
  rw [hu, ← hfrom k u hu, hlast]

/-- The positions of some tokens, each with the token that has it. -/
def placements (tokens : List α) : List (Nat × α) :=
  tokens.flatMap fun t => (Token.positions t).toList.map fun k => (k, t)

theorem nodup_placements (h : Apart tokens) : (placements tokens).Nodup := by
  refine List.nodup_flatMap.2 ⟨fun t _ => ?_, h.imp fun {t u} hapart => ?_⟩
  · have hnodup : (Token.positions t).toList.Nodup := (Token.positions t).ascending.imp Nat.ne_of_lt
    exact hnodup.map fun k l heq => (Prod.mk.inj heq).1
  · intro e ht hu
    obtain ⟨k, hk, rfl⟩ := List.mem_map.1 ht
    obtain ⟨l, hl, heq⟩ := List.mem_map.1 hu
    obtain ⟨rfl, -⟩ := Prod.mk.inj heq
    exact hapart _ hk hl

/-- Without common positions, every token stands at each of its positions, and nothing else stands anywhere. -/
theorem entries_perm (h : Apart tokens) : (tokens.foldl place .empty).entries.Perm (placements tokens) := by
  have hnodup : (tokens.foldl place .empty).entries.Nodup :=
    List.Nodup.of_map _ ((tokens.foldl place .empty).ascending.imp Nat.ne_of_lt)
  refine (List.perm_ext_iff_of_nodup hnodup (nodup_placements h)).2 fun ⟨k, t⟩ => ?_
  rw [mem_entries_iff, h.lastWith_eq_some_iff, placements, List.mem_flatMap]
  simp only [List.mem_map, Prod.mk.injEq]
  constructor
  · rintro ⟨ht, hk⟩
    exact ⟨t, ht, k, hk, rfl, rfl⟩
  · rintro ⟨_, ht, _, hk, rfl, rfl⟩
    exact ⟨ht, hk⟩

/-- Without common positions, there are as many copies of every token as it has positions. -/
theorem tokens_perm (h : Apart tokens) : (sorted tokens).tokens.Perm
    (tokens.flatMap fun t => List.replicate (Token.positions t).toList.length t) := by
  have hvalues : (placements tokens).map (·.2) =
      tokens.flatMap fun t => List.replicate (Token.positions t).toList.length t := by
    rw [placements, List.map_flatMap]
    refine List.flatMap_congr fun t _ => ?_
    rw [List.map_map]
    exact List.map_const' ..
  rw [← hvalues]
  exact (entries_perm h).map (·.2)

/-! ## Sorting -/

/-- **Sorting by position.** Sorted tokens stand one for each position that any of them has, in the order of these
positions, and at each of them stands the last token that has it. If no two have a position in common, then their order
makes no difference, each stands there as often as it has positions, and sorted again they stay where they are. -/
theorem sorted_lastWith (tokens : List α) :
    (∃ positions : Positions, (∀ k, k ∈ positions ↔ ∃ t ∈ tokens, k ∈ Token.positions t) ∧
      (sorted tokens).tokens.map some = positions.toList.map (lastWith tokens)) ∧
    (Apart tokens →
      (∀ tokens', tokens'.Perm tokens → sorted tokens' = sorted tokens) ∧
      (sorted tokens).tokens.Perm (tokens.flatMap fun t => List.replicate (Token.positions t).toList.length t) ∧
      sorted (sorted tokens).tokens = sorted tokens) :=
  ⟨⟨occupied tokens, fun _ => mem_occupied, map_some_sorted tokens⟩, fun h =>
    ⟨fun _ hperm => sorted_perm h hperm, tokens_perm h, sorted_sorted h⟩⟩

/-- The words of "one and one", the one that occurs twice behind the other. -/
def oneAndOne : List Fragment :=
  [⟨"and".toList, .single 4, by decide⟩, ⟨"one".toList, (Positions.single 8).insert 0, by decide⟩]

/-- A token with two positions around the other one's. -/
theorem sorted_lastWith_oneAndOne :
    Apart oneAndOne ∧ sorted oneAndOne.reverse = sorted oneAndOne ∧
      (sorted oneAndOne).tokens.Perm
        (oneAndOne.flatMap fun t => List.replicate (Token.positions t).toList.length t) ∧
      sorted (sorted oneAndOne).tokens = sorted oneAndOne ∧ (sorted oneAndOne).text = "oneandone".toList := by
  have hapart : Apart oneAndOne := by
    simp only [Apart, oneAndOne, Token.positions, List.pairwise_cons, List.mem_singleton, forall_eq,
      Positions.mem_single, Positions.mem_insert]
    simp
  obtain ⟨hperm, htokens, hagain⟩ := (sorted_lastWith oneAndOne).2 hapart
  exact ⟨hapart, hperm _ (List.reverse_perm oneAndOne), htokens, hagain, by decide⟩

/-- With a position in common the order makes a difference: the later token has it. -/
example : (sorted [(⟨['a'], .single 0, by decide⟩ : Fragment), ⟨['b'], .single 0, by decide⟩]).text = ['b'] ∧
    (sorted [(⟨['b'], .single 0, by decide⟩ : Fragment), ⟨['a'], .single 0, by decide⟩]).text = ['a'] := by
  decide

end TextAnalysis.Sequence
