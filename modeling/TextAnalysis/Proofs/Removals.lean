/-
# Removals as filters

A removal walks over a sequence with a cursor: it searches the next token that satisfies a predicate, steps back, passes
over the token and removes it, until no such token is left. It comes to asking the predicate about every token once,
from the first to the last, and to leaving out the tokens for which it holds.
-/
import TextAnalysis.Sequence.Sweep
import TextAnalysis.Proofs.Cursors
import TextAnalysis.Proofs.Cursors.Places

namespace TextAnalysis

variable {α : Type}

/-! ## Marked tokens -/

/-- The tokens that are not marked by a list with a flag for each of them. -/
def unmarked (tokens : List α) (flags : List Bool) : List α :=
  ((tokens.zip flags).filter (! ·.2)).map (·.1)

theorem unmarked_cons_true (t : α) (tokens : List α) (flags : List Bool) :
    unmarked (t :: tokens) (true :: flags) = unmarked tokens flags :=
  rfl

theorem unmarked_cons_false (t : α) (tokens : List α) (flags : List Bool) :
    unmarked (t :: tokens) (false :: flags) = t :: unmarked tokens flags :=
  rfl

/-- The tokens that a predicate does not mark are those that do not satisfy it. -/
theorem unmarked_map (p : α → Bool) (tokens : List α) : unmarked tokens (tokens.map p) = tokens.filter (! p ·) := by
  induction tokens with
  | nil => rfl
  | cons t tokens ih =>
    rw [List.map_cons, List.filter_cons]
    cases p t with
    | true => rw [unmarked_cons_true, ih]; rfl
    | false => rw [unmarked_cons_false, ih]; rfl

namespace Sequence

/-- A sequence without its marked tokens. The removal of each of them is an edit. -/
def without (s : Sequence α) (flags : List Bool) : Sequence α :=
  { s with tokens := unmarked s.tokens flags, edits := s.edits + flags.count true }

theorem without_map (p : α → Bool) (s : Sequence α) :
    s.without (s.tokens.map p) =
      { s with tokens := s.tokens.filter (! p ·), edits := s.edits + s.tokens.countP p } := by
  have hcount : (s.tokens.map p).count true = s.tokens.countP p := by
    rw [List.count, List.countP_map]
    exact List.countP_congr fun t _ => by simp
  rw [without, unmarked_map, hcount]

/-! ## Rounds of a removal -/

section

variable {m : Type → Type} [Monad m] (p : α → m Bool)

/-- What a removal does after a search, in at most `steps` more rounds. -/
def afterSearch (steps : Nat) (s : Sequence α) :
    Except CursorError (Bool × Cursor) → m (Except CursorError (Sequence α))
  | .error e => pure (.error e)
  | .ok (false, _) => pure (.ok s)
  | .ok (true, c) =>
    match removeNext c s with
    | .error e => pure (.error e)
    | .ok (c, s) => removeFrom p steps c s

/-- The removal of the tokens of a list that satisfy a predicate, which is asked about them in order. The tokens before
the list stay. -/
def removeAfter (passed rest : List α) (s : Sequence α) : m (Except CursorError (Sequence α)) :=
  (fun flags => .ok { s with tokens := passed ++ unmarked rest flags, edits := s.edits + flags.count true }) <$>
    rest.mapM p

/-- A round of a removal is a search over the whole rest and what comes after it. -/
theorem removeFrom_succ (steps : Nat) (c : Cursor) (s : Sequence α) :
    removeFrom p (steps + 1) c s = Cursor.seekForward s p (s.size + 1) c >>= afterSearch p steps s := by
  unfold removeFrom
  refine bind_congr fun found => ?_
  rcases found with e | ⟨hit, c⟩
  · rfl
  · cases hit <;> rfl

variable [LawfulMonad m]

theorem removeAfter_nil {s : Sequence α} {passed : List α} (hs : s.tokens = passed) :
    removeAfter p passed [] s = pure (.ok s) := by
  unfold removeAfter
  rw [List.mapM_nil, map_pure]
  subst hs
  simp [unmarked]

/-- The first token of the list goes away, or it stays with those before. -/
theorem removeAfter_cons (passed : List α) (t : α) (rest : List α) (s : Sequence α) :
    removeAfter p passed (t :: rest) s = p t >>= fun hit =>
      if hit then removeAfter p passed rest { s with tokens := passed ++ rest, edits := s.edits + 1 }
      else removeAfter p (passed ++ [t]) rest s := by
  unfold removeAfter
  rw [List.mapM_cons, map_bind]
  refine bind_congr fun hit => ?_
  rw [map_bind]
  simp only [map_pure]
  -- The flags of the rest are asked for in either case; only where the first token goes, it is counted as an edit.
  cases hit with
  | true =>
    rw [if_pos rfl, map_eq_pure_bind]
    refine bind_congr fun flags => ?_
    rw [unmarked_cons_true, List.count_cons_self, Nat.add_comm _ 1, Nat.add_assoc]
  | false =>
    rw [if_neg Bool.false_ne_true, map_eq_pure_bind]
    refine bind_congr fun flags => ?_
    rw [unmarked_cons_false, List.count_cons_of_ne Bool.false_ne_true, List.append_assoc, List.singleton_append]

/-- The token after the cursor goes away. -/
theorem removeNext_eq_ok {c : Cursor} {s : Sequence α} (hc : c.Follows s) {passed rest : List α} {t : α}
    (hs : s.tokens = passed ++ t :: rest) (hnext : c.next = passed.length) :
    removeNext c s = .ok ({ c with edits := s.edits + 1, next := passed.length, last := none },
      { s with tokens := passed ++ rest, edits := s.edits + 1 }) := by
  have ht : s.tokens[c.next]? = some t := by rw [hs, hnext, Places.getElem?_split]
  have herase : s.tokens.eraseIdx c.next = passed ++ rest := by rw [hs, hnext, Places.eraseIdx_split]
  have hfollows : Cursor.Follows { c with next := c.next + 1, last := some c.next } s := hc
  unfold removeNext
  rw [Cursor.forward_eq_ok hc ht, ok_bind]
  dsimp only
  rw [Cursor.remove_eq_ok hfollows rfl ht, herase, hnext, if_pos (Nat.lt_succ_self _)]
  rfl

/-- A search and the rounds after it remove tokens from the rest, and ask about each of them once. -/
theorem seekForward_afterSearch (rest : List α) :
    ∀ (looks steps : Nat) (passed : List α) (c : Cursor) (s : Sequence α), c.Follows s →
      s.tokens = passed ++ rest → c.next = passed.length → rest.length < looks → rest.length ≤ steps + 1 →
      Cursor.seekForward s p looks c >>= afterSearch p steps s = removeAfter p passed rest s := by
  -- Whatever the search passes over stays, and after a hit a new round goes on from the next token.
  induction rest with
  | nil =>
    intro looks steps passed c s hc hs hnext hlooks _
    obtain ⟨looks, rfl⟩ := Nat.exists_eq_add_one.2 hlooks
    rw [List.append_nil] at hs
    have hend : s.size ≤ c.next := Nat.le_of_eq (by rw [hnext, size, hs])
    rw [Cursor.seekForward, Cursor.forward_eq_error hc hend, removeAfter_nil p hs]
    exact pure_bind _ _
  | cons t rest ih =>
    intro looks steps passed c s hc hs hnext hlooks hsteps
    rw [List.length_cons] at hlooks hsteps
    obtain ⟨looks, rfl⟩ := Nat.exists_eq_add_one.2 (Nat.lt_of_le_of_lt (Nat.zero_le _) hlooks)
    have ht : s.tokens[c.next]? = some t := by rw [hs, hnext, Places.getElem?_split]
    have hfollows : Cursor.Follows { c with next := c.next + 1, last := some c.next } s := hc
    rw [Cursor.seekForward, Cursor.forward_eq_ok hc ht, removeAfter_cons]
    dsimp only
    rw [bind_assoc]
    refine bind_congr fun hit => ?_
    cases hit with
    | false =>
      have hpassed : s.tokens = (passed ++ [t]) ++ rest := by rw [hs, List.append_assoc]; rfl
      exact ih looks steps (passed ++ [t]) _ s hfollows hpassed (by simp [hnext]) (by omega) (by omega)
    | true =>
      have hlast : { c with next := c.next + 1, last := some c.next }.backward s =
          .ok (t, { c with next := c.next, last := some c.next }) :=
        Cursor.backward_eq_ok hfollows (Nat.succ_pos _) ht
      have hhit : Cursor.Follows { c with next := c.next, last := some c.next } s := hc
      rw [if_pos rfl, if_pos rfl, hlast]
      refine (pure_bind _ _).trans ?_
      show afterSearch p steps s (.ok (true, _)) = _
      rw [afterSearch, removeNext_eq_ok hhit hs hnext]
      dsimp only
      cases steps with
      | zero =>
        obtain rfl := List.eq_nil_of_length_eq_zero (Nat.le_zero.1 (Nat.le_of_succ_le_succ hsteps))
        rw [removeAfter_nil p (List.append_nil passed)]
        rfl
      | succ steps =>
        rw [removeFrom_succ]
        refine ih _ steps passed _ _ ⟨hc.1, rfl⟩ rfl rfl ?_ (Nat.le_of_succ_le_succ hsteps)
        show rest.length < (passed ++ rest).length + 1
        rw [List.length_append]
        omega

/-- A removal asks the predicate about every token once, in order, and leaves out those for which it holds. -/
theorem removeM_eq (s : Sequence α) : s.removeM p = (fun flags => .ok (s.without flags)) <$> s.tokens.mapM p := by
  unfold removeM
  rw [Cursor.start_eq_ok (Nat.zero_le _)]
  dsimp only
  show _ = removeAfter p [] s.tokens s
  cases hsize : s.size with
  | zero =>
    have hnil : s.tokens = [] := List.eq_nil_of_length_eq_zero hsize
    rw [hnil, removeAfter_nil p hnil]
    rfl
  | succ steps =>
    rw [removeFrom_succ]
    exact seekForward_afterSearch p s.tokens _ steps [] _ s ⟨rfl, rfl⟩ rfl rfl (Nat.lt_succ_self _) (Nat.le_of_eq hsize)

end

end Sequence

end TextAnalysis
