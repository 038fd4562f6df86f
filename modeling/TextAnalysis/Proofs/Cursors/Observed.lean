/-
# Tokens that an action looks at

A step passes over a token and answers it, and a search asks its predicate about the tokens on its way. The last of
them is the token visited last afterwards. Where there is none, the token visited last stays the same.
-/
import TextAnalysis.Proofs.Cursors.InPlace

namespace TextAnalysis.Cursor

variable {α σ : Type} {c c' : Cursor} {s : Sequence α}

/-! ## Predicates that take notes -/

/-- A predicate that notes the tokens that it is asked about. -/
def noting (p : α → StateM σ Bool) (t : α) : StateM (σ × List α) Bool := fun x =>
  pure (outcome (p t) x.1, finish (p t) x.1, x.2 ++ [t])

/-- The state after a search that has made a step forward. -/
theorem finish_seekForward_of_forward {t : α} (h : c.forward s = .ok (t, c')) (p : α → StateM σ Bool) (start : σ)
    (steps : Nat) :
    finish (seekForward s p (steps + 1) c) start =
      if outcome (p t) start then finish (p t) start
      else finish (seekForward s p steps c') (finish (p t) start) := by
  rw [seekForward, h]
  show finish (if outcome (p t) start then _ else _) (finish (p t) start) = _
  split
  · rfl
  · rfl

/-- The state after a search that has made a step back. -/
theorem finish_seekBackward_of_backward {t : α} (h : c.backward s = .ok (t, c')) (p : α → StateM σ Bool)
    (start : σ) (steps : Nat) :
    finish (seekBackward s p (steps + 1) c) start =
      if outcome (p t) start then finish (p t) start
      else finish (seekBackward s p steps c') (finish (p t) start) := by
  rw [seekBackward, h]
  show finish (if outcome (p t) start then _ else _) (finish (p t) start) = _
  split
  · rfl
  · rfl

/-- A search that has no token ahead asks nothing. -/
theorem finish_seekForward_of_end (h : c.forward s = .error .noSuchElement) (p : α → StateM σ Bool) (start : σ)
    (steps : Nat) : finish (seekForward s p (steps + 1) c) start = start := by
  rw [seekForward, h]
  rfl

theorem finish_seekBackward_of_end (h : c.backward s = .error .noSuchElement) (p : α → StateM σ Bool) (start : σ)
    (steps : Nat) : finish (seekBackward s p (steps + 1) c) start = start := by
  rw [seekBackward, h]
  rfl

/-! ## Looking at tokens -/

/-- The token visited last, if there is one. -/
def marked (c : Cursor) (s : Sequence α) : Option α :=
  c.last.bind (s.tokens[·]?)

theorem marked_of_last {i : Nat} (h : c.last = some i) : c.marked s = s.tokens[i]? := by
  unfold marked
  rw [h]
  rfl

theorem marked_of_none (h : c.last = none) : c.marked s = none := by
  unfold marked
  rw [h]
  rfl

/-- A cursor moved from one state to another on a sequence and looked at some tokens. -/
structure Looks (c : Cursor) (s : Sequence α) (seen : List α) (c' : Cursor) : Prop where
  keeps : Keeps c s c' s
  mem : ∀ t ∈ seen, t ∈ s.tokens
  marked : c'.marked s = seen.getLast?.or (c.marked s)

theorem Looks.refl (c : Cursor) (s : Sequence α) : Looks c s [] c :=
  ⟨.refl c s, nofun, rfl⟩

/-- The tokens looked at on two ways one after the other. -/
theorem Looks.trans {c'' : Cursor} {seen seen' : List α} (h : Looks c s seen c') (h' : Looks c' s seen' c'') :
    Looks c s (seen ++ seen') c'' := by
  refine ⟨h.keeps.trans h'.keeps, ?_, ?_⟩
  · intro t ht
    rcases List.mem_append.1 ht with hseen | hseen'
    · exact h.mem t hseen
    · exact h'.mem t hseen'
  · rw [h'.marked, h.marked, List.getLast?_append, Option.or_assoc]

/-- A step forward looks at the token after the cursor. -/
theorem looks_forward (hc : c.Follows s) {t : α} (ht : s.tokens[c.next]? = some t) :
    Looks c s [t] { c with next := c.next + 1, last := some c.next } := by
  refine ⟨keeps_forward hc ht, ?_, ?_⟩
  · intro u hu
    rw [List.mem_singleton.1 hu]
    exact List.mem_of_getElem? ht
  · exact ht

/-- A step back looks at the token before the cursor. -/
theorem looks_backward (hc : c.Follows s) {t : α} (ht : s.tokens[c.next - 1]? = some t) :
    Looks c s [t] { c with next := c.next - 1, last := some (c.next - 1) } := by
  refine ⟨keeps_backward hc ht, ?_, ?_⟩
  · intro u hu
    rw [List.mem_singleton.1 hu]
    exact List.mem_of_getElem? ht
  · exact ht

/-- A step over a token that the cursor has just passed over looks at no other token. -/
theorem Looks.again {c'' : Cursor} {t : α} (h : Looks c s [t] c') (h' : Looks c' s [t] c'') :
    Looks c s [t] c'' :=
  ⟨h.keeps.trans h'.keeps, h.mem, h'.marked⟩

/-! ## Searches -/

/-- What a search forward looks at are the tokens that its predicate notes. -/
theorem exists_seekForward_looks (hc : c.Follows s) (hr : c.InRange s) (p : α → StateM σ Bool) (start : σ)
    (noted : List α) (steps : Nat) :
    ∃ b c' seen, outcome (seekForward s p steps c) start = .ok (b, c') ∧
      (finish (seekForward s (noting p) steps c) (start, noted)).2 = noted ++ seen ∧ Looks c s seen c' := by
  induction steps generalizing c start noted with
  | zero => exact ⟨false, c, [], rfl, (List.append_nil noted).symm, .refl c s⟩
  | succ steps ih =>
    rcases forward_cases hc with ⟨t, ht, hforward⟩ | ⟨-, hforward⟩
    · have hlooks := looks_forward hc ht
      have hfollows := hlooks.keeps.follows hc
      rw [seekForward_of_forward hforward, finish_seekForward_of_forward hforward]
      show ∃ b c' seen, (if outcome (p t) start then _ else _) = _ ∧
        (if outcome (p t) start then _ else _ : σ × List α).2 = _ ∧ _
      by_cases hp : outcome (p t) start = true
      · -- The step back goes over the token that was found, which has been looked at.
        rw [if_pos hp, if_pos hp, backward_eq_ok hfollows (Nat.succ_pos c.next) ht]
        have hagain := looks_backward hfollows ht
        exact ⟨true, _, [t], rfl, rfl, hlooks.again hagain⟩
      · rw [if_neg hp, if_neg hp]
        obtain ⟨b, c', seen, hsearch, hnoted, hrest⟩ :=
          ih hfollows (hlooks.keeps.inRange hr) (finish (p t) start) (noted ++ [t])
        refine ⟨b, c', [t] ++ seen, hsearch, ?_, hlooks.trans hrest⟩
        rw [← List.append_assoc]
        exact hnoted
    · refine ⟨false, c, [], seekForward_of_end hforward p start steps, ?_, .refl c s⟩
      rw [finish_seekForward_of_end hforward]
      exact (List.append_nil noted).symm

/-- What a search back looks at are the tokens that its predicate notes. -/
theorem exists_seekBackward_looks (hc : c.Follows s) (hr : c.InRange s) (p : α → StateM σ Bool) (start : σ)
    (noted : List α) (steps : Nat) :
    ∃ b c' seen, outcome (seekBackward s p steps c) start = .ok (b, c') ∧
      (finish (seekBackward s (noting p) steps c) (start, noted)).2 = noted ++ seen ∧ Looks c s seen c' := by
  induction steps generalizing c start noted with
  | zero => exact ⟨false, c, [], rfl, (List.append_nil noted).symm, .refl c s⟩
  | succ steps ih =>
    rcases backward_cases hc hr with ⟨t, -, ht, hbackward⟩ | ⟨-, hbackward⟩
    · have hlooks := looks_backward hc ht
      have hfollows := hlooks.keeps.follows hc
      rw [seekBackward_of_backward hbackward, finish_seekBackward_of_backward hbackward]
      show ∃ b c' seen, (if outcome (p t) start then _ else _) = _ ∧
        (if outcome (p t) start then _ else _ : σ × List α).2 = _ ∧ _
      by_cases hp : outcome (p t) start = true
      · rw [if_pos hp, if_pos hp, forward_eq_ok hfollows ht]
        -- The step forward looks once more at the token that is marked already.
        have hagain := looks_forward hfollows ht
        exact ⟨true, _, [t], rfl, rfl, hlooks.again hagain⟩
      · rw [if_neg hp, if_neg hp]
        obtain ⟨b, c', seen, hsearch, hnoted, hrest⟩ :=
          ih hfollows (hlooks.keeps.inRange hr) (finish (p t) start) (noted ++ [t])
        refine ⟨b, c', [t] ++ seen, hsearch, ?_, hlooks.trans hrest⟩
        rw [← List.append_assoc]
        exact hnoted
    · refine ⟨false, c, [], seekBackward_of_end hbackward p start steps, ?_, .refl c s⟩
      rw [finish_seekBackward_of_end hbackward]
      exact (List.append_nil noted).symm

/-! ## Actions -/

/-- The cursor and the sequence after an action. An action that fails changes nothing. -/
def Site.next (x : Site α) (a : Action α σ) : Site α :=
  match a.perform x.cursor x.sequence with
  | .ok (_, c, s) => ⟨c, s⟩
  | .error _ => x

theorem Site.next_of_ok {x : Site α} {a : Action α σ} {answer : Answer α}
    (h : a.perform x.cursor x.sequence = .ok (answer, c, s)) : x.next a = ⟨c, s⟩ := by
  unfold Site.next
  rw [h]

theorem Site.next_of_error {x : Site α} {a : Action α σ} {e : CursorError}
    (h : a.perform x.cursor x.sequence = .error e) : x.next a = x := by
  unfold Site.next
  rw [h]

/-- An action that only asks changes nothing. -/
theorem Site.next_of_asks {β : Type} {a : Action α σ} {question : Except CursorError β} {answer : β → Answer α}
    (h : a.perform c s = question.map fun b => (answer b, c, s)) : Site.next ⟨c, s⟩ a = ⟨c, s⟩ := by
  cases question with
  | ok b => exact next_of_ok h
  | error e => exact next_of_error h

namespace Action

/-- The tokens that an action passes over or asks its predicate about. -/
def seen (a : Action α σ) (c : Cursor) (s : Sequence α) : List α :=
  match a with
  | forward => (c.forward s).toOption.toList.map Prod.fst
  | backward => (c.backward s).toOption.toList.map Prod.fst
  | findNext p start limit => (finish (c.findNextM s (noting p) limit) (start, [])).2
  | findPrevious p start limit => (finish (c.findPreviousM s (noting p) limit) (start, [])).2
  | _ => []

/-- An action that does not need a token visited last leaves the sequence as it is, and marks the last token that it
looks at. -/
theorem looks_of_moves {a : Action α σ} (ha : a.usesVisited = false) (hc : c.Follows s) (hr : c.InRange s) :
    ∃ c', Site.next ⟨c, s⟩ a = ⟨c', s⟩ ∧ Looks c s (a.seen c s) c' := by
  cases a with
  | hasNext | hasPrevious | nextIndex | previousIndex => exact ⟨c, Site.next_of_asks rfl, .refl c s⟩
  | forward =>
    rcases forward_cases hc with ⟨t, ht, hforward⟩ | ⟨-, hforward⟩
    · refine ⟨_, Site.next_of_ok (congrArg (Except.map _) hforward), ?_⟩
      rw [seen, hforward]
      exact looks_forward hc ht
    · refine ⟨c, Site.next_of_error (congrArg (Except.map _) hforward), ?_⟩
      rw [seen, hforward]
      exact .refl c s
  | backward =>
    rcases backward_cases hc hr with ⟨t, -, ht, hbackward⟩ | ⟨-, hbackward⟩
    · refine ⟨_, Site.next_of_ok (congrArg (Except.map _) hbackward), ?_⟩
      rw [seen, hbackward]
      exact looks_backward hc ht
    · refine ⟨c, Site.next_of_error (congrArg (Except.map _) hbackward), ?_⟩
      rw [seen, hbackward]
      exact .refl c s
  | findNext p start limit =>
    obtain ⟨b, c', seen, hsearch, hseen, hlooks⟩ :=
      exists_seekForward_looks hc hr p start [] (limit.getD (s.size + 1))
    refine ⟨c', Site.next_of_ok (congrArg (Except.map _) hsearch), ?_⟩
    rw [Action.seen, findNextM, hseen]
    exact hlooks
  | findPrevious p start limit =>
    obtain ⟨b, c', seen, hsearch, hseen, hlooks⟩ :=
      exists_seekBackward_looks hc hr p start [] (limit.getD (s.size + 1))
    refine ⟨c', Site.next_of_ok (congrArg (Except.map _) hsearch), ?_⟩
    rw [Action.seen, findPreviousM, hseen]
    exact hlooks
  | _ => cases ha

/-- An action at the token visited last looks at no other token. -/
theorem seen_of_usesVisited {a : Action α σ} (ha : a.usesVisited = true) : a.seen c s = [] := by
  cases a with
  | current | modifyCurrent | add | remove | replace | merge | split => rfl
  | _ => cases ha

end Action

end TextAnalysis.Cursor
