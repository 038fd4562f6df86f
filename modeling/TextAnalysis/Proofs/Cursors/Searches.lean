/-
# Searches are linear

A search forward asks its predicate about the tokens after the cursor, one after the other, until one is accepted or
the limit or the end is reached. It leaves the cursor before the token that was accepted, or where it stopped asking.
A search back is a search forward on the reversed sequence, by the cursor seen in a mirror.
-/
import Mathlib.Data.Set.Basic
import Mathlib.Order.Bounds.Basic
import TextAnalysis.Proofs.Cursors.Effects

namespace TextAnalysis

/-! ## Stretches and reversed sequences -/

namespace Sequence

variable {α : Type} {s : Sequence α}

/-- The tokens from one index up to another. -/
def stretch (s : Sequence α) (i j : Nat) : List α :=
  (s.tokens.take j).drop i

theorem stretch_of_le {i j : Nat} (h : j ≤ i) : s.stretch i j = [] := by
  refine List.drop_eq_nil_of_le ?_
  exact Nat.le_trans (List.length_take_le j s.tokens) h

theorem getElem?_stretch_eq_some {i j k : Nat} {t : α} :
    (s.stretch i j)[k]? = some t ↔ i + k < j ∧ s.tokens[i + k]? = some t := by
  rw [stretch, List.getElem?_drop, List.getElem?_take]
  split
  · rename_i hlt
    exact (and_iff_right hlt).symm
  · rename_i hlt
    exact iff_of_false nofun fun h => hlt h.1

/-- A stretch begins with the token at its first index. -/
theorem stretch_eq_cons {i j : Nat} {t : α} (ht : s.tokens[i]? = some t) (h : i < j) :
    s.stretch i j = t :: s.stretch (i + 1) j := by
  have hi : (s.tokens.take j)[i]? = some t := by rw [List.getElem?_take, if_pos h, ht]
  obtain ⟨hlt, hget⟩ := List.getElem?_eq_some_iff.1 hi
  rw [stretch, List.drop_eq_getElem_cons hlt, hget]
  rfl

/-- The first tokens of a stretch are a shorter stretch. -/
theorem take_stretch {i j k : Nat} (h : i + k ≤ j) : (s.stretch i j).take k = s.stretch i (i + k) := by
  rw [stretch, stretch, List.take_drop, List.take_take, Nat.min_eq_left h]

/-- The sequence with its tokens in the opposite order. -/
def reversed (s : Sequence α) : Sequence α :=
  { s with tokens := s.tokens.reverse }

@[simp] theorem size_reversed (s : Sequence α) : s.reversed.size = s.size :=
  List.length_reverse

theorem reversed_reversed (s : Sequence α) : s.reversed.reversed = s := by
  unfold reversed
  rw [List.reverse_reverse]

theorem getElem?_reversed {i : Nat} (h : i < s.size) : s.reversed.tokens[i]? = s.tokens[s.size - 1 - i]? :=
  List.getElem?_reverse h

end Sequence

namespace Cursor

variable {α : Type} {c : Cursor} {s : Sequence α}

/-! ## Linear search -/

section Linear

variable {m : Type → Type} [Monad m]

/-- Asks a predicate about tokens, one after the other, up to the first that it accepts, and answers with the place of
that one. -/
def firstHit (p : α → m Bool) : List α → m (Option Nat)
  | [] => pure none
  | t :: ts => do
    if ← p t then return some 0
    else return (← firstHit p ts).map (· + 1)

/-- The index at which a search forward ends if the predicate accepts no token. -/
def reach (c : Cursor) (s : Sequence α) (limit : Option Nat) : Nat :=
  limit.elim s.size fun steps => min (c.next + steps) s.size

/-- What a search forward up to an index answers, and its cursor, if the predicate accepts the token at a place after
the cursor first, or none. -/
def landing (c : Cursor) (stop : Nat) : Option Nat → Bool × Cursor
  | some k => (true, { c with next := c.next + k, last := some (c.next + k) })
  | none => (false, { c with next := stop, last := if stop = c.next then c.last else some (stop - 1) })

/-- A search that has passed over a token lands where the search from the next token lands. -/
theorem landing_succ {stop : Nat} (h : c.next < stop) (hit : Option Nat) :
    { c with next := c.next + 1, last := some c.next }.landing stop hit = c.landing stop (hit.map (· + 1)) := by
  cases hit with
  | some k =>
    show (true, _) = (true, _)
    simp only [Nat.add_right_comm c.next 1 k, Nat.add_assoc]
  | none =>
    show (false, _) = (false, _)
    rw [if_neg (Nat.ne_of_gt h)]
    split
    · rename_i hstop
      simp only [hstop, Nat.add_sub_cancel]
    · rfl

theorem landing_none_self (c : Cursor) : c.landing c.next none = (false, c) := by
  rw [landing, if_pos rfl]

/-- A search forward asks in order, and steps back once over the token that it finds. -/
theorem seekForward_eq_firstHit [LawfulMonad m] (hc : c.Follows s) (hr : c.InRange s) (p : α → m Bool) (steps : Nat) :
    seekForward s p steps c =
      (fun hit => .ok (c.landing (min (c.next + steps) s.size) hit)) <$>
        firstHit p (s.stretch c.next (min (c.next + steps) s.size)) := by
  have hnext := hr.next
  -- By induction on the steps: a step over the first token of the stretch leaves the rest of the stretch ahead.
  induction steps generalizing c with
  | zero =>
    rw [Nat.add_zero, Nat.min_eq_left hnext, Sequence.stretch_of_le (Nat.le_refl _), firstHit, map_pure,
      landing_none_self]
    rfl
  | succ steps ih =>
    rcases forward_cases hc with ⟨t, ht, hforward⟩ | ⟨hend, hforward⟩
    · have hkeeps := keeps_forward hc ht
      have hlt : c.next < s.size := (List.getElem?_eq_some_iff.1 ht).1
      have hstop : c.next < min (c.next + (steps + 1)) s.size := by omega
      have hback := backward_eq_ok (hkeeps.follows hc) (Nat.succ_pos c.next) ht
      have hrest := ih (hkeeps.follows hc) (hkeeps.inRange hr) (hkeeps.inRange hr).next
      rw [show c.next + 1 + steps = c.next + (steps + 1) by omega] at hrest
      rw [Sequence.stretch_eq_cons ht hstop, firstHit, map_bind, seekForward, hforward]
      refine bind_congr fun accepted => ?_
      cases accepted with
      | true =>
        rw [if_pos rfl, if_pos rfl, map_pure, hback]
        rfl
      | false =>
        rw [if_neg Bool.false_ne_true, if_neg Bool.false_ne_true, hrest, bind_pure_comp, Functor.map_map]
        refine map_congr fun hit => ?_
        rw [landing_succ hstop]
    · rw [Nat.min_eq_right (by omega), Sequence.stretch_of_le hend, firstHit, map_pure, seekForward, hforward]
      rw [show s.size = c.next by omega, landing_none_self]

/-- A search forward looks at tokens up to where its limit or the end is. -/
theorem findNextM_eq_firstHit [LawfulMonad m] (hc : c.Follows s) (hr : c.InRange s) (p : α → m Bool)
    (limit : Option Nat) :
    c.findNextM s p limit =
      (fun hit => .ok (c.landing (c.reach s limit) hit)) <$> firstHit p (s.stretch c.next (c.reach s limit)) := by
  have hreach : min (c.next + limit.getD (s.size + 1)) s.size = c.reach s limit := by
    cases limit with
    | none => exact Nat.min_eq_right (show s.size ≤ c.next + (s.size + 1) by omega)
    | some steps => rfl
  rw [findNextM, seekForward_eq_firstHit hc hr, hreach]

end Linear

/-! ## Predicates without effects -/

/-- A predicate that notes every token that it is asked about. -/
def asking (p : α → Bool) (t : α) : StateM (List α) Bool := fun asked =>
  pure (p t, asked ++ [t])

/-- A predicate that takes notes is asked about the first token, and about the others if it does not accept that. -/
theorem firstHit_asking_cons (p : α → Bool) (t : α) (ts asked : List α) :
    (firstHit (asking p) (t :: ts)).run asked =
      if p t then (some 0, asked ++ [t])
      else ((firstHit (asking p) ts).run (asked ++ [t])).map (·.map (· + 1)) id := by
  rw [firstHit]
  show (if p t then _ else _ : StateM (List α) (Option Nat)).run (asked ++ [t]) = _
  split
  · rfl
  · rfl

/-- A linear search asks about the tokens up to the first that satisfies the predicate, or about all. -/
theorem firstHit_asking_cases (p : α → Bool) (ts asked : List α) :
    (∃ k t, ts[k]? = some t ∧ p t = true ∧ (∀ j < k, ∀ u, ts[j]? = some u → p u = false) ∧
        (firstHit (asking p) ts).run asked = (some k, asked ++ ts.take (k + 1))) ∨
      ((∀ t ∈ ts, p t = false) ∧ (firstHit (asking p) ts).run asked = (none, asked ++ ts)) := by
  induction ts generalizing asked with
  | nil => exact .inr ⟨nofun, congrArg (none, ·) (List.append_nil asked).symm⟩
  | cons t ts ih =>
    rw [firstHit_asking_cons]
    cases hp : p t with
    | true => exact .inl ⟨0, t, rfl, hp, nofun, rfl⟩
    | false =>
      rcases ih (asked ++ [t]) with ⟨k, u, hu, hpu, hbefore, hrest⟩ | ⟨hnone, hrest⟩
      · refine .inl ⟨k + 1, u, hu, hpu, ?_, ?_⟩
        · rintro (_ | j) hj v hv
          · cases hv
            exact hp
          · exact hbefore j (Nat.lt_of_succ_lt_succ hj) v hv
        · rw [hrest, List.append_assoc]
          rfl
      · refine .inr ⟨List.forall_mem_cons.2 ⟨hp, hnone⟩, ?_⟩
        rw [hrest, List.append_assoc]
        rfl

/-- The notes do not change what a linear search answers. -/
theorem firstHit_pure (p : α → Bool) (ts asked : List α) :
    Id.run (firstHit (fun t => pure (p t)) ts) = ((firstHit (asking p) ts).run asked).1 := by
  induction ts generalizing asked with
  | nil => rfl
  | cons t ts ih =>
    rw [firstHit_asking_cons, firstHit]
    show Id.run (if p t then _ else _) = _
    split
    · rfl
    · exact congrArg (Option.map (· + 1)) (ih (asked ++ [t]))

/-! ## The mirror -/

/-- The cursor seen in a mirror: the gap and the token count from the other end of a sequence of a size. -/
def mirrored (c : Cursor) (size : Nat) : Cursor :=
  { c with next := size - c.next, last := c.last.map (size - 1 - ·) }

theorem mirrored_mirrored (hr : c.InRange s) : (c.mirrored s.size).mirrored s.size = c := by
  obtain ⟨owner, edits, next, last⟩ := c
  have hnext : s.size - (s.size - next) = next := Nat.sub_sub_self hr.next
  cases last with
  | none =>
    unfold mirrored
    simp only [hnext]
    rfl
  | some i =>
    have hi : s.size - 1 - (s.size - 1 - i) = i := Nat.sub_sub_self (Nat.le_sub_one_of_lt (hr.last i rfl))
    unfold mirrored
    simp only [hnext, Option.map_some, hi]

theorem Follows.mirrored (hc : c.Follows s) : (c.mirrored s.size).Follows s.reversed :=
  hc

theorem InRange.mirrored (hr : c.InRange s) : (c.mirrored s.size).InRange s.reversed := by
  constructor
  · rw [Sequence.size_reversed]
    exact Nat.sub_le ..
  · intro i hi
    obtain ⟨j, hj, rfl⟩ := Option.map_eq_some_iff.1 hi
    have hlt := hr.last j hj
    rw [Sequence.size_reversed]
    omega

/-- In the mirror, a step back is a step forward. -/
theorem forward_mirrored (hc : c.Follows s) (hr : c.InRange s) :
    (c.mirrored s.size).forward s.reversed = (c.backward s).map fun r => (r.1, r.2.mirrored s.size) := by
  have hnext := hr.next
  rcases backward_cases hc hr with ⟨t, hpos, ht, hbackward⟩ | ⟨hzero, hbackward⟩
  · -- The token in front of the cursor is the one behind its mirror image.
    have hlt : s.size - c.next < s.size := by omega
    have hplace : s.size - 1 - (s.size - c.next) = c.next - 1 := by omega
    have hmirror : s.reversed.tokens[s.size - c.next]? = some t := by
      rw [Sequence.getElem?_reversed hlt, hplace, ht]
    rw [hbackward, forward_eq_ok hc.mirrored hmirror]
    show Except.ok (t, _) = Except.ok (t, _)
    unfold mirrored
    rw [Option.map_some, show s.size - (c.next - 1) = s.size - c.next + 1 by omega,
      show s.size - 1 - (c.next - 1) = s.size - c.next by omega]
  · rw [hbackward, forward_eq_error hc.mirrored]
    · rfl
    · rw [Sequence.size_reversed]
      show s.size ≤ s.size - c.next
      omega

/-- In the mirror, a step forward is a step back. -/
theorem backward_mirrored (hc : c.Follows s) (hr : c.InRange s) :
    (c.mirrored s.size).backward s.reversed = (c.forward s).map fun r => (r.1, r.2.mirrored s.size) := by
  have h := forward_mirrored hc.mirrored hr.mirrored
  rw [Sequence.size_reversed, mirrored_mirrored hr, Sequence.reversed_reversed] at h
  rw [h, map_map_eq]
  rcases backward_cases hc.mirrored hr.mirrored with ⟨t, -, ht, hbackward⟩ | ⟨-, hbackward⟩
  · have hwithin := (keeps_backward hc.mirrored ht).inRange hr.mirrored
    have hagain := mirrored_mirrored hwithin
    rw [Sequence.size_reversed] at hagain
    rw [hbackward]
    show _ = Except.ok (t, _)
    rw [hagain]
  · rw [hbackward]
    rfl

/-- A search back is a search forward in the mirror. -/
theorem seekBackward_eq_mirrored {m : Type → Type} [Monad m] [LawfulMonad m] (hc : c.Follows s) (hr : c.InRange s)
    (p : α → m Bool) (steps : Nat) :
    seekBackward s p steps c =
      (Except.map fun r => (r.1, r.2.mirrored s.size)) <$>
        seekForward s.reversed p steps (c.mirrored s.size) := by
  induction steps generalizing c with
  | zero =>
    rw [seekForward, map_pure]
    show _ = pure (Except.ok (false, _))
    rw [mirrored_mirrored hr]
    rfl
  | succ steps ih =>
    rcases backward_cases hc hr with ⟨t, -, ht, hbackward⟩ | ⟨-, hbackward⟩
    · have hkeeps := keeps_backward hc ht
      have hrange := hkeeps.inRange hr
      have hforward := forward_eq_ok (hkeeps.follows hc) ht
      have hmirror : (c.mirrored s.size).forward s.reversed =
          .ok (t, { c with next := c.next - 1, last := some (c.next - 1) }.mirrored s.size) := by
        rw [forward_mirrored hc hr, hbackward]
        rfl
      rw [seekBackward, hbackward, seekForward, hmirror, map_bind]
      refine bind_congr fun accepted => ?_
      cases accepted with
      | true =>
        -- Both searches step back over the token that they found.
        have hreturn := backward_mirrored (hkeeps.follows hc) hrange
        rw [hforward] at hreturn
        rw [if_pos rfl, if_pos rfl, map_pure, hforward, hreturn]
        show _ = pure (Except.ok (true, _))
        rw [mirrored_mirrored ((keeps_forward (hkeeps.follows hc) ht).inRange hrange)]
        rfl
      | false => exact ih (hkeeps.follows hc) hrange
    · have hmirror : (c.mirrored s.size).forward s.reversed = .error .noSuchElement := by
        rw [forward_mirrored hc hr, hbackward]
        rfl
      rw [seekForward, hmirror, seekBackward, hbackward, map_pure]
      show _ = pure (Except.ok (false, _))
      rw [mirrored_mirrored hr]

theorem findPreviousM_eq_mirrored {m : Type → Type} [Monad m] [LawfulMonad m] (hc : c.Follows s) (hr : c.InRange s)
    (p : α → m Bool) (limit : Option Nat) :
    c.findPreviousM s p limit =
      (Except.map fun r => (r.1, r.2.mirrored s.size)) <$>
        (c.mirrored s.size).findNextM s.reversed p limit := by
  rw [findPreviousM, findNextM, Sequence.size_reversed]
  exact seekBackward_eq_mirrored hc hr p _

/-! ## What a search finds -/

/-- The indices of the tokens within reach of a search forward that satisfy a predicate. -/
def hits (c : Cursor) (s : Sequence α) (p : α → Bool) (limit : Option Nat) : Set Nat :=
  { i | c.next ≤ i ∧ i < c.reach s limit ∧ ∃ t, s.tokens[i]? = some t ∧ p t = true }

/-- The places of the tokens ahead that satisfy a predicate. -/
theorem add_mem_hits_iff {p : α → Bool} {limit : Option Nat} {k : Nat} :
    c.next + k ∈ c.hits s p limit ↔
      ∃ t, (s.stretch c.next (c.reach s limit))[k]? = some t ∧ p t = true := by
  constructor
  · rintro ⟨-, hlt, t, ht, hp⟩
    exact ⟨t, Sequence.getElem?_stretch_eq_some.2 ⟨hlt, ht⟩, hp⟩
  · rintro ⟨t, ht, hp⟩
    obtain ⟨hlt, ht⟩ := Sequence.getElem?_stretch_eq_some.1 ht
    exact ⟨Nat.le_add_right .., hlt, t, ht, hp⟩

/-- A search forward finds the first token ahead that satisfies the predicate, or there is none. -/
theorem findNextM_asking_cases (hc : c.Follows s) (hr : c.InRange s) (p : α → Bool) (limit : Option Nat) :
    (∃ i, IsLeast (c.hits s p limit) i ∧
        (c.findNextM s (asking p) limit).run [] =
          (.ok (true, { c with next := i, last := some i }), s.stretch c.next (i + 1))) ∨
      (c.hits s p limit = ∅ ∧
        (c.findNextM s (asking p) limit).run [] =
          (.ok (false, { c with
              next := c.reach s limit
              last := if c.reach s limit = c.next then c.last else some (c.reach s limit - 1) }),
            s.stretch c.next (c.reach s limit))) := by
  have hrun : (c.findNextM s (asking p) limit).run [] =
      ((firstHit (asking p) (s.stretch c.next (c.reach s limit))).run []).map
        (fun hit => .ok (c.landing (c.reach s limit) hit)) id := by
    rw [findNextM_eq_firstHit hc hr]
    rfl
  rw [hrun]
  rcases firstHit_asking_cases p (s.stretch c.next (c.reach s limit)) [] with
    ⟨k, t, ht, hp, hbefore, hasked⟩ | ⟨hnone, hasked⟩
  · refine .inl ⟨c.next + k, ⟨add_mem_hits_iff.2 ⟨t, ht, hp⟩, ?_⟩, ?_⟩
    · -- Of an earlier hit the predicate would have been asked, and it did not accept any.
      intro i hi
      obtain ⟨j, rfl⟩ := Nat.exists_eq_add_of_le hi.1
      obtain ⟨u, hu, hpu⟩ := add_mem_hits_iff.1 hi
      by_contra hlt
      rw [hbefore j (by omega) u hu] at hpu
      cases hpu
    · have hlt := (Sequence.getElem?_stretch_eq_some.1 ht).1
      rw [hasked, List.nil_append, Sequence.take_stretch (Nat.succ_le_of_lt hlt)]
      rfl
  · refine .inr ⟨Set.eq_empty_iff_forall_notMem.2 ?_, ?_⟩
    · intro i hi
      obtain ⟨j, rfl⟩ := Nat.exists_eq_add_of_le hi.1
      obtain ⟨u, hu, hpu⟩ := add_mem_hits_iff.1 hi
      rw [hnone u (List.mem_of_getElem? hu)] at hpu
      cases hpu
    · rw [hasked, List.nil_append]
      rfl

/-- A search without effects gives the result of the search that takes notes. -/
theorem findNext_eq_asking (hc : c.Follows s) (hr : c.InRange s) (p : α → Bool) (limit : Option Nat) :
    c.findNext s p limit = ((c.findNextM s (asking p) limit).run []).1 := by
  have hpure := firstHit_pure p (s.stretch c.next (c.reach s limit)) []
  rw [findNext, findNextM_eq_firstHit hc hr, findNextM_eq_firstHit hc hr]
  exact congrArg (fun hit => Except.ok (c.landing (c.reach s limit) hit)) hpure

/-- A search back gives the result of the search forward in the mirror. -/
theorem findPrevious_eq_mirrored (hc : c.Follows s) (hr : c.InRange s) (p : α → Bool) (limit : Option Nat) :
    c.findPrevious s p limit =
      ((c.mirrored s.size).findNext s.reversed p limit).map fun r => (r.1, r.2.mirrored s.size) := by
  rw [findPrevious, findPreviousM_eq_mirrored hc hr]
  rfl

/-- After a search back that has found a token, a step back passes over that token. -/
theorem backward_of_findPrevious (hc : c.Follows s) (hr : c.InRange s) {p : α → Bool} {limit : Option Nat}
    {c' : Cursor} (h : c.findPrevious s p limit = .ok (true, c')) :
    ∃ i t, s.tokens[i]? = some t ∧ p t = true ∧ c' = { c with next := i + 1, last := some i } ∧
      c'.backward s = .ok (t, { c with next := i, last := some i }) := by
  rw [findPrevious_eq_mirrored hc hr, findNext_eq_asking hc.mirrored hr.mirrored] at h
  rcases findNextM_asking_cases hc.mirrored hr.mirrored p limit with ⟨k, ⟨⟨-, -, t, ht, hp⟩, -⟩, hrun⟩ | ⟨-, hrun⟩
  · -- The hit is at the place `k` from the other end.
    rw [hrun] at h
    have hk : k < s.size := by
      have := (List.getElem?_eq_some_iff.1 ht).1
      rwa [← Sequence.size_reversed]
    rw [Sequence.getElem?_reversed hk] at ht
    have hnext : s.size - k = s.size - 1 - k + 1 := by omega
    have hc' : c' = { c with next := s.size - 1 - k + 1, last := some (s.size - 1 - k) } := by
      cases h
      unfold mirrored
      rw [hnext]
      rfl
    have hfollows : { c with next := s.size - 1 - k + 1, last := some (s.size - 1 - k) }.Follows s := hc
    refine ⟨_, t, ht, hp, hc', ?_⟩
    rw [hc']
    exact backward_eq_ok hfollows (Nat.succ_pos _) ht
  · rw [hrun] at h
    cases h

/-- Searches by a valid cursor are linear. A search forward finds a token exactly if one within its reach satisfies the
predicate. It stops before the first such token, or at the end of its reach, and asks about the tokens on its way, each
once and in order; predicates with effects are asked in the same way. A search back is a search forward in the mirror,
and a step back after it passes over the token that it found. The cursors of a workspace are within the bounds of every
sequence that they follow, see `Coherent.inRange`. -/
theorem search_linear (hc : c.Follows s) (hr : c.InRange s) (limit : Option Nat) :
    (∀ p : α → Bool, ∃ found c' asked,
      (c.findNextM s (asking p) limit).run [] = (.ok (found, c'), asked) ∧
      c.findNext s p limit = .ok (found, c') ∧
      (found = true ↔ (c.hits s p limit).Nonempty) ∧
      (∀ i, IsLeast (c.hits s p limit) i →
        c' = { c with next := i, last := some i } ∧ asked = s.stretch c.next (i + 1)) ∧
      (found = false →
        c' = { c with
          next := c.reach s limit
          last := if c.reach s limit = c.next then c.last else some (c.reach s limit - 1) } ∧
        asked = s.stretch c.next (c.reach s limit))) ∧
    (∀ (m : Type → Type) [Monad m] [LawfulMonad m] (p : α → m Bool),
      c.findNextM s p limit =
        (fun hit => .ok (c.landing (c.reach s limit) hit)) <$> firstHit p (s.stretch c.next (c.reach s limit))) ∧
    (∀ (m : Type → Type) [Monad m] [LawfulMonad m] (p : α → m Bool),
      c.findPreviousM s p limit =
        (Except.map fun r => (r.1, r.2.mirrored s.size)) <$>
          (c.mirrored s.size).findNextM s.reversed p limit) ∧
    (∀ (p : α → Bool) (c' : Cursor), c.findPrevious s p limit = .ok (true, c') →
      ∃ i t, s.tokens[i]? = some t ∧ p t = true ∧ c' = { c with next := i + 1, last := some i } ∧
        c'.backward s = .ok (t, { c with next := i, last := some i })) := by
  refine ⟨fun p => ?_, fun m _ _ p => findNextM_eq_firstHit hc hr p limit,
    fun m _ _ p => findPreviousM_eq_mirrored hc hr p limit, fun p c' => backward_of_findPrevious hc hr⟩
  rw [findNext_eq_asking hc hr]
  -- Either there is a first token within reach that satisfies the predicate, or there is none.
  rcases findNextM_asking_cases hc hr p limit with ⟨i, hi, hrun⟩ | ⟨hnone, hrun⟩
  · refine ⟨_, _, _, hrun, congrArg Prod.fst hrun, iff_of_true rfl ⟨i, hi.1⟩, ?_, nofun⟩
    intro j hj
    rw [hj.unique hi]
    exact ⟨rfl, rfl⟩
  · rw [hnone]
    refine ⟨_, _, _, hrun, congrArg Prod.fst hrun, ?_, ?_, fun _ => ⟨rfl, rfl⟩⟩
    · exact iff_of_false nofun Set.not_nonempty_empty
    · intro i hi
      exact absurd hi.1 (Set.notMem_empty i)

/-- A search over two tokens that does not get as far as the one it looks for. -/
theorem search_linear_limited :
    ∃ (s : Sequence Nat) (c c' : Cursor), s.tokens = [3, 1, 4, 1, 5] ∧ c.next = 2 ∧ c.Follows s ∧ c.InRange s ∧
      c.findNext s (· == 5) (some 2) = .ok (false, c') ∧ c'.next = 4 ∧ c'.last = some 3 := by
  obtain ⟨s, hs⟩ : ∃ s : Sequence Nat, s = .ofList [3, 1, 4, 1, 5] := ⟨_, rfl⟩
  obtain ⟨c, hc⟩ : ∃ c : Cursor, c = { owner := 0, edits := 0, next := 2, last := none } := ⟨_, rfl⟩
  have hfollows : c.Follows s := by rw [hc, hs]; exact ⟨rfl, rfl⟩
  have hrange : c.InRange s := by rw [hc, hs]; exact ⟨by decide, nofun⟩
  obtain ⟨found, c', asked, -, hfind, hfound, -, hmiss⟩ := (search_linear hfollows hrange (some 2)).1 (· == 5)
  subst hc hs
  cases found with
  | true =>
    -- A hit would be one of the two tokens within reach, and neither is a five.
    obtain ⟨i, hge, hlt, t, ht, hp⟩ := hfound.1 rfl
    have hi : i = 2 ∨ i = 3 := by
      have : i < 4 := hlt
      have : 2 ≤ i := hge
      omega
    rcases hi with rfl | rfl
    · cases ht
      cases hp
    · cases ht
      cases hp
  | false =>
    obtain ⟨rfl, -⟩ := hmiss rfl
    exact ⟨_, _, _, rfl, rfl, hfollows, hrange, hfind, rfl, rfl⟩

end Cursor

end TextAnalysis
