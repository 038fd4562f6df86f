/-
# What actions leave behind

The cursor and the sequence after an action. An edit is done by a cursor that follows the sequence, adds one to the
edits of both, and leaves the cursor within the bounds of the sequence. Any other action keeps the number, the edits
and the size of the sequence and what the cursor has seen, and leaves a cursor that it moves within the bounds.
-/
import TextAnalysis.Proofs.Cursors.Actions

namespace TextAnalysis.Cursor

variable {α σ : Type} {c : Cursor} {s : Sequence α}

/-! ## Bounds -/

/-- The cursor stands within the bounds of the sequence, and the token visited last is there. -/
structure InRange (c : Cursor) (s : Sequence α) : Prop where
  next : c.next ≤ s.size
  last : ∀ i, c.last = some i → i < s.size

/-- The bounds of a sequence depend on its size alone. -/
theorem InRange.congr {s' : Sequence α} (h : c.InRange s) (hsize : s'.size = s.size) : c.InRange s' := by
  constructor
  · rw [hsize]
    exact h.next
  · intro i hi
    rw [hsize]
    exact h.last i hi

/-- The token visited last is a token of the sequence. -/
theorem InRange.exists_token (h : c.InRange s) {i : Nat} (hi : c.last = some i) :
    ∃ t, s.tokens[i]? = some t :=
  ⟨_, List.getElem?_eq_getElem (h.last i hi)⟩

/-- What an action that is no edit keeps. -/
structure Keeps (c : Cursor) (s : Sequence α) (c' : Cursor) (s' : Sequence α) : Prop where
  owner : c'.owner = c.owner
  seen : c'.edits = c.edits
  number : s'.number = s.number
  edits : s'.edits = s.edits
  size : s'.size = s.size
  place : c' = c ∨ (c.Follows s ∧ c'.InRange s')

/-- What an edit does. -/
structure Advances (c : Cursor) (s : Sequence α) (c' : Cursor) (s' : Sequence α) : Prop where
  follows : c.Follows s
  owner : c'.owner = c.owner
  number : s'.number = s.number
  edits : s'.edits = s.edits + 1
  seen : c'.edits = s'.edits
  inRange : c'.InRange s'

theorem Keeps.refl (c : Cursor) (s : Sequence α) : Keeps c s c s :=
  ⟨rfl, rfl, rfl, rfl, rfl, .inl rfl⟩

/-- What keeps its owner and its edits follows the same sequence. -/
theorem Keeps.follows {c' : Cursor} {s' : Sequence α} (h : Keeps c s c' s') (hc : c.Follows s) : c'.Follows s' :=
  ⟨h.owner.trans (hc.1.trans h.number.symm), h.seen.trans (hc.2.trans h.edits.symm)⟩

/-- The cursor that edits a sequence follows it afterwards. -/
theorem Advances.follows_after {c' : Cursor} {s' : Sequence α} (h : Advances c s c' s') : c'.Follows s' :=
  ⟨h.owner.trans (h.follows.1.trans h.number.symm), h.seen⟩

/-- Only actions that are idle succeed for a cursor that does not follow the sequence. -/
theorem Action.follows_of_perform {a : Action α σ} (ha : a.isIdle = false) {r : Answer α × Cursor × Sequence α}
    (h : a.perform c s = .ok r) : c.Follows s := by
  cases hcheck : c.check s with
  | error e =>
    rw [perform_of_check ha hcheck] at h
    cases h
  | ok _ => exact check_eq_ok_iff.1 hcheck

/-! ## Steps -/

/-- A step forward passes over the token after the cursor, or there is none. -/
theorem forward_cases (hc : c.Follows s) :
    (∃ t, s.tokens[c.next]? = some t ∧
        c.forward s = .ok (t, { c with next := c.next + 1, last := some c.next })) ∨
      (s.size ≤ c.next ∧ c.forward s = .error .noSuchElement) := by
  by_cases hlt : c.next < s.size
  · have ht : s.tokens[c.next]? = some s.tokens[c.next] := List.getElem?_eq_getElem hlt
    exact .inl ⟨_, ht, forward_eq_ok hc ht⟩
  · refine .inr ⟨Nat.not_lt.1 hlt, ?_⟩
    unfold forward
    rw [hasNext_eq_ok hc, decide_eq_false hlt]
    rfl

/-- A step back passes over the token before the cursor, or there is none. -/
theorem backward_cases (hc : c.Follows s) (hr : c.InRange s) :
    (∃ t, 0 < c.next ∧ s.tokens[c.next - 1]? = some t ∧
        c.backward s = .ok (t, { c with next := c.next - 1, last := some (c.next - 1) })) ∨
      (c.next = 0 ∧ c.backward s = .error .noSuchElement) := by
  by_cases hpos : 0 < c.next
  · have hlt : c.next - 1 < s.size := by
      have hnext := hr.next
      omega
    have ht : s.tokens[c.next - 1]? = some s.tokens[c.next - 1] := List.getElem?_eq_getElem hlt
    exact .inl ⟨_, hpos, ht, backward_eq_ok hc hpos ht⟩
  · refine .inr ⟨by omega, ?_⟩
    unfold backward
    rw [hasPrevious_eq_ok hc, decide_eq_false hpos]
    rfl

/-- A step forward leaves the cursor within the bounds. -/
theorem keeps_forward (hc : c.Follows s) {t : α} (ht : s.tokens[c.next]? = some t) :
    Keeps c s { c with next := c.next + 1, last := some c.next } s := by
  have hlt : c.next < s.size := (List.getElem?_eq_some_iff.1 ht).1
  refine ⟨rfl, rfl, rfl, rfl, rfl, .inr ⟨hc, hlt, ?_⟩⟩
  intro i hi
  cases hi
  exact hlt

/-- A step back leaves the cursor within the bounds. -/
theorem keeps_backward (hc : c.Follows s) {t : α} (ht : s.tokens[c.next - 1]? = some t) :
    Keeps c s { c with next := c.next - 1, last := some (c.next - 1) } s := by
  have hlt : c.next - 1 < s.size := (List.getElem?_eq_some_iff.1 ht).1
  refine ⟨rfl, rfl, rfl, rfl, rfl, .inr ⟨hc, Nat.le_of_lt hlt, ?_⟩⟩
  intro i hi
  cases hi
  exact hlt

/-! ## Searches -/

/-- What a cursor keeps on two ways one after the other. -/
theorem Keeps.trans {c' c'' : Cursor} (h : Keeps c s c' s) (h' : Keeps c' s c'' s) : Keeps c s c'' s := by
  refine ⟨h'.owner.trans h.owner, h'.seen.trans h.seen, rfl, rfl, rfl, ?_⟩
  rcases h'.place with rfl | ⟨hfollows, hrange⟩
  · exact h.place
  · have hc : c.Follows s := ⟨h.owner.symm.trans hfollows.1, h.seen.symm.trans hfollows.2⟩
    exact .inr ⟨hc, hrange⟩

/-- A cursor that has moved stands within the bounds. -/
theorem Keeps.inRange {c' : Cursor} {s' : Sequence α} (h : Keeps c s c' s') (hr : c.InRange s) : c'.InRange s' := by
  rcases h.place with rfl | ⟨-, hrange⟩
  · exact hr.congr h.size
  · exact hrange

/-- A search forward by a cursor that follows the sequence always comes to an answer. -/
theorem exists_seekForward (hc : c.Follows s) (hr : c.InRange s) (p : α → StateM σ Bool) (start : σ)
    (steps : Nat) :
    ∃ b c', outcome (seekForward s p steps c) start = .ok (b, c') ∧ Keeps c s c' s := by
  induction steps generalizing c start with
  | zero => exact ⟨false, c, rfl, .refl c s⟩
  | succ steps ih =>
    rcases forward_cases hc with ⟨t, ht, hforward⟩ | ⟨-, hforward⟩
    · have hkeeps := keeps_forward hc ht
      rw [seekForward_of_forward hforward]
      split
      · -- The step back goes to the token that was found.
        have hback := backward_eq_ok (hkeeps.follows hc) (Nat.succ_pos c.next) ht
        rw [hback]
        exact ⟨true, _, rfl, hkeeps.trans (keeps_backward (hkeeps.follows hc) ht)⟩
      · obtain ⟨b, c', hsearch, hrest⟩ := ih (hkeeps.follows hc) (hkeeps.inRange hr) (finish (p t) start)
        exact ⟨b, c', hsearch, hkeeps.trans hrest⟩
    · exact ⟨false, c, seekForward_of_end hforward p start steps, .refl c s⟩

/-- A search back by a cursor that follows the sequence always comes to an answer. -/
theorem exists_seekBackward (hc : c.Follows s) (hr : c.InRange s) (p : α → StateM σ Bool) (start : σ)
    (steps : Nat) :
    ∃ b c', outcome (seekBackward s p steps c) start = .ok (b, c') ∧ Keeps c s c' s := by
  induction steps generalizing c start with
  | zero => exact ⟨false, c, rfl, .refl c s⟩
  | succ steps ih =>
    rcases backward_cases hc hr with ⟨t, -, ht, hbackward⟩ | ⟨-, hbackward⟩
    · have hkeeps := keeps_backward hc ht
      rw [seekBackward_of_backward hbackward]
      split
      · have hforward := forward_eq_ok (hkeeps.follows hc) ht
        rw [hforward]
        exact ⟨true, _, rfl, hkeeps.trans (keeps_forward (hkeeps.follows hc) ht)⟩
      · obtain ⟨b, c', hsearch, hrest⟩ := ih (hkeeps.follows hc) (hkeeps.inRange hr) (finish (p t) start)
        exact ⟨b, c', hsearch, hkeeps.trans hrest⟩
    · exact ⟨false, c, seekBackward_of_end hbackward p start steps, .refl c s⟩

/-- Steps beyond the last token do not matter to a search forward. -/
theorem seekForward_eq_of_lt (hc : c.Follows s) (p : α → StateM σ Bool) (start : σ) {steps steps' : Nat}
    (hsteps : s.size - c.next < steps) (hsteps' : s.size - c.next < steps') :
    outcome (seekForward s p steps c) start = outcome (seekForward s p steps' c) start := by
  induction steps generalizing c start steps' with
  | zero => exact absurd hsteps (Nat.not_lt_zero _)
  | succ steps ih =>
    obtain ⟨steps', rfl⟩ := Nat.exists_eq_succ_of_ne_zero (Nat.ne_zero_of_lt hsteps')
    rcases forward_cases hc with ⟨t, ht, hforward⟩ | ⟨-, hforward⟩
    · have hlt : c.next < s.size := (List.getElem?_eq_some_iff.1 ht).1
      have hrest := ih ((keeps_forward hc ht).follows hc) (finish (p t) start)
        (show s.size - (c.next + 1) < steps by omega) (show s.size - (c.next + 1) < steps' by omega)
      rw [seekForward_of_forward hforward, seekForward_of_forward hforward, hrest]
    · rw [seekForward_of_end hforward, seekForward_of_end hforward]

/-- Steps beyond the first token do not matter to a search back. -/
theorem seekBackward_eq_of_lt (hc : c.Follows s) (hr : c.InRange s) (p : α → StateM σ Bool) (start : σ)
    {steps steps' : Nat} (hsteps : c.next < steps) (hsteps' : c.next < steps') :
    outcome (seekBackward s p steps c) start = outcome (seekBackward s p steps' c) start := by
  induction steps generalizing c start steps' with
  | zero => exact absurd hsteps (Nat.not_lt_zero _)
  | succ steps ih =>
    obtain ⟨steps', rfl⟩ := Nat.exists_eq_succ_of_ne_zero (Nat.ne_zero_of_lt hsteps')
    rcases backward_cases hc hr with ⟨t, hpos, ht, hbackward⟩ | ⟨-, hbackward⟩
    · have hkeeps := keeps_backward hc ht
      have hrest := ih (hkeeps.follows hc) (hkeeps.inRange hr) (finish (p t) start)
        (show c.next - 1 < steps by omega) (show c.next - 1 < steps' by omega)
      rw [seekBackward_of_backward hbackward, seekBackward_of_backward hbackward, hrest]
    · rw [seekBackward_of_end hbackward, seekBackward_of_end hbackward]

/-- A search forward without a limit is one with any limit that reaches beyond the last token. -/
theorem findNextM_none (hc : c.Follows s) (p : α → StateM σ Bool) (start : σ) {limit : Nat}
    (hlimit : s.size - c.next < limit) :
    outcome (c.findNextM s p none) start = outcome (c.findNextM s p (some limit)) start :=
  seekForward_eq_of_lt hc p start (Nat.lt_succ_of_le (Nat.sub_le ..)) hlimit

/-- A search back without a limit is one with any limit that reaches beyond the first token. -/
theorem findPreviousM_none (hc : c.Follows s) (hr : c.InRange s) (p : α → StateM σ Bool) (start : σ)
    {limit : Nat} (hlimit : c.next < limit) :
    outcome (c.findPreviousM s p none) start = outcome (c.findPreviousM s p (some limit)) start :=
  seekBackward_eq_of_lt hc hr p start (Nat.lt_succ_of_le hr.next) hlimit

/-! ## Actions without a visited token -/

/-- Where no token was visited last, an action that needs one fails. -/
theorem Action.perform_of_none {a : Action α σ} (ha : a.usesVisited = true) (hc : c.Follows s)
    (hlast : c.last = none) : a.perform c s = .error .nothingVisited := by
  have hcheck : c.check s = .ok () := check_eq_ok_iff.2 hc
  have hvisited : c.visited = .error .nothingVisited := by
    unfold visited
    rw [hlast]
  cases a with
  | current =>
    rw [perform, Cursor.current, hcheck, hvisited]
    rfl
  | modifyCurrent f =>
    rw [perform, Cursor.modifyCurrent, hcheck, hvisited]
    rfl
  | add t =>
    rw [perform, Cursor.add, hcheck, hvisited]
    rfl
  | remove =>
    rw [perform, Cursor.remove, hcheck, hvisited]
    rfl
  | replace t =>
    rw [perform, Cursor.replace, hcheck, hvisited]
    rfl
  | merge other combine =>
    rw [perform, Cursor.merge, hcheck, hvisited]
    rfl
  | split divide =>
    rw [perform, Cursor.split, hcheck, hvisited]
    rfl
  | _ => cases ha

/-! ## Merges -/

/-- A merge of the token visited last with another one, or why the other one cannot be taken. -/
theorem merge_cases (hc : c.Follows s) (hr : c.InRange s) {i : Nat} (hi : c.last = some i) (other : Nat)
    (combine : α → α → α) :
    (s.size ≤ other ∧ c.merge s other combine = .error (.indexOutOfBounds other s.size)) ∨
      (other < s.size ∧ other = i ∧ c.merge s other combine = .error (.mergeWithItself i)) ∨
      ∃ t u, other ≠ i ∧ s.tokens[i]? = some t ∧ s.tokens[other]? = some u ∧
        c.merge s other combine =
          .ok ({ c with
              next := if other < c.next then c.next - 1 else c.next
              last := some (min i other) }.afterEdit s
            ((s.tokens.set (min i other) (combine t u)).eraseIdx (max i other))) := by
  by_cases hsize : s.size ≤ other
  · refine .inl ⟨hsize, ?_⟩
    unfold merge
    rw [check_eq_ok_iff.2 hc, visited_eq_ok hi, ok_bind, ok_bind, if_pos hsize]
    rfl
  · rw [Nat.not_le] at hsize
    by_cases hother : other = i
    · refine .inr (.inl ⟨hsize, hother, ?_⟩)
      unfold merge
      rw [check_eq_ok_iff.2 hc, visited_eq_ok hi]
      simp only [ok_bind, if_neg (Nat.not_le.2 hsize), if_pos hother]
      rfl
    · obtain ⟨t, ht⟩ := hr.exists_token hi
      have hu : s.tokens[other]? = some s.tokens[other] := List.getElem?_eq_getElem hsize
      exact .inr (.inr ⟨t, _, hother, ht, hu, merge_eq_ok hc hi hother ht hu combine⟩)

/-! ## Edits -/

/-- What an edit at the token with index `i` makes of the indices of a cursor and of the tokens of a sequence. -/
inductive Edited (c : Cursor) (s : Sequence α) (i : Nat) : Action α σ → Nat → Option Nat → List α → Prop
  | add (t : α) : Edited c s i (.add t) c.next (some (i + 1)) (s.tokens.insertIdx i t)
  | remove : Edited c s i .remove (if i < c.next then c.next - 1 else c.next) none (s.tokens.eraseIdx i)
  | replace (t : α) : Edited c s i (.replace t) c.next c.last (s.tokens.set i t)
  | merge {other : Nat} (hne : other ≠ i) (hother : other < s.size) (combine : α → α → α) (t : α) :
      Edited c s i (.merge other combine) (if other < c.next then c.next - 1 else c.next) (some (min i other))
        ((s.tokens.set (min i other) t).eraseIdx (max i other))
  | split (divide : α → α × α) (kept new : α) :
      Edited c s i (.split divide) c.next c.last ((s.tokens.set i kept).insertIdx (i + 1) new)

namespace Edited

variable {a : Action α σ} {i next : Nat} {last : Option Nat} {tokens : List α}

theorem length_eq (h : Edited c s i a next last tokens) (hi : i < s.size) :
    (tokens.length : Int) = s.size + a.growth := by
  have hi : i < s.tokens.length := hi
  unfold Sequence.size
  cases h with
  | add t =>
    rw [List.length_insertIdx_of_le_length (Nat.le_of_lt hi)]
    rfl
  | remove =>
    rw [List.length_eraseIdx_of_lt hi, Action.growth]
    omega
  | replace t =>
    rw [List.length_set]
    exact (Int.add_zero _).symm
  | @merge other hne hother combine t =>
    have hother : other < s.tokens.length := hother
    have hmax : max i other < (s.tokens.set (min i other) t).length := by
      rw [List.length_set]
      omega
    rw [List.length_eraseIdx_of_lt hmax, List.length_set, Action.growth]
    omega
  | split divide kept new =>
    rw [List.length_insertIdx_of_le_length (by rw [List.length_set]; exact hi), List.length_set]
    rfl

/-- The indices of the cursor fit the new tokens. After a merge the shorter sequence has the smaller of the two. -/
theorem inRange (h : Edited c s i a next last tokens) (hr : c.InRange s) (hi : c.last = some i) :
    next ≤ tokens.length ∧ ∀ j, last = some j → j < tokens.length := by
  have hlt : i < s.size := hr.last i hi
  have hnext : c.next ≤ s.size := hr.next
  have hlength := h.length_eq hlt
  -- The size is known from the growth, so what is left is arithmetic with the old bounds.
  cases h with
  | add t =>
    rw [Action.growth] at hlength
    refine ⟨by omega, fun j hj => ?_⟩
    cases hj
    omega
  | remove =>
    rw [Action.growth] at hlength
    refine ⟨?_, nofun⟩
    split <;> omega
  | replace t =>
    rw [List.length_set]
    exact ⟨hnext, hr.last⟩
  | @merge other hne hother combine t =>
    rw [Action.growth] at hlength
    refine ⟨by split <;> omega, fun j hj => ?_⟩
    cases hj
    omega
  | split divide kept new =>
    rw [Action.growth] at hlength
    refine ⟨by omega, fun j hj => ?_⟩
    have hj := hr.last j hj
    omega

/-- An edit by a cursor that follows the sequence. -/
theorem advances (h : Edited c s i a next last tokens) (hc : c.Follows s) (hr : c.InRange s) (hi : c.last = some i) :
    Advances c s ({ c with next, last }.afterEdit s tokens).1 ({ c with next, last }.afterEdit s tokens).2 :=
  have hrange := h.inRange hr hi
  ⟨hc, rfl, rfl, rfl, rfl, hrange.1, hrange.2⟩

end Edited

/-! ## Actions -/

namespace Action

variable {c' : Cursor} {s' : Sequence α} {x : Answer α}

/-- What an action that is no edit leaves behind, done by a cursor that stands within the bounds of the sequence if
it follows it. -/
theorem keeps_of_perform {a : Action α σ} (ha : a.isEdit = false) (hsound : c.Follows s → c.InRange s)
    (h : a.perform c s = .ok (x, c', s')) : Keeps c s c' s' := by
  -- A search over no steps succeeds without a check, so nothing is known of its cursor.
  by_cases hidle : a.isIdle = true
  · rw [perform_of_isIdle hidle] at h
    cases h
    exact .refl c s
  rw [Bool.not_eq_true] at hidle
  have hc : c.Follows s := follows_of_perform hidle h
  have hr : c.InRange s := hsound hc
  cases a with
  | hasNext =>
    rw [perform, hasNext_eq_ok hc] at h
    cases h
    exact .refl c s
  | hasPrevious =>
    rw [perform, hasPrevious_eq_ok hc] at h
    cases h
    exact .refl c s
  | nextIndex =>
    obtain ⟨i, -, hi⟩ := map_eq_ok.1 h
    cases hi
    exact .refl c s
  | previousIndex =>
    obtain ⟨i, -, hi⟩ := map_eq_ok.1 h
    cases hi
    exact .refl c s
  | current =>
    obtain ⟨t, -, ht⟩ := map_eq_ok.1 h
    cases ht
    exact .refl c s
  | forward =>
    rcases forward_cases hc with ⟨t, ht, hforward⟩ | ⟨-, hforward⟩
    · rw [perform, hforward] at h
      cases h
      exact keeps_forward hc ht
    · rw [perform, hforward] at h
      cases h
  | backward =>
    rcases backward_cases hc hr with ⟨t, -, ht, hbackward⟩ | ⟨-, hbackward⟩
    · rw [perform, hbackward] at h
      cases h
      exact keeps_backward hc ht
    · rw [perform, hbackward] at h
      cases h
  | modifyCurrent f =>
    cases hlast : c.last with
    | none =>
      rw [perform_of_none rfl hc hlast] at h
      cases h
    | some i =>
      obtain ⟨t, ht⟩ := hr.exists_token hlast
      rw [perform, modifyCurrent_eq_ok hc hlast ht] at h
      cases h
      have hsize : (s.tokens.set i (f t)).length = s.tokens.length := List.length_set
      exact ⟨rfl, rfl, rfl, rfl, hsize, .inl rfl⟩
  | findNext p start limit =>
    obtain ⟨b, c₁, hsearch, hkeeps⟩ := exists_seekForward hc hr p start (limit.getD (s.size + 1))
    rw [perform, findNextM, hsearch] at h
    cases h
    exact hkeeps
  | findPrevious p start limit =>
    obtain ⟨b, c₁, hsearch, hkeeps⟩ := exists_seekBackward hc hr p start (limit.getD (s.size + 1))
    rw [perform, findPreviousM, hsearch] at h
    cases h
    exact hkeeps
  | add | remove | replace | merge | split => cases ha

/-- An edit that succeeds is done at the token visited last. -/
theorem edited_of_perform {a : Action α σ} (ha : a.isEdit = true) (hc : c.Follows s) (hr : c.InRange s)
    (h : a.perform c s = .ok (x, c', s')) :
    ∃ i next last tokens, c.last = some i ∧ Edited c s i a next last tokens ∧
      (c', s') = { c with next, last }.afterEdit s tokens := by
  cases hlast : c.last with
  | none =>
    rw [perform_of_none (usesVisited_of_isEdit ha) hc hlast] at h
    cases h
  | some i =>
    obtain ⟨old, hold⟩ := hr.exists_token hlast
    cases a with
    | add t =>
      rw [perform, add_eq_ok hc hlast] at h
      cases h
      exact ⟨i, _, _, _, rfl, .add t, rfl⟩
    | remove =>
      rw [perform, remove_eq_ok hc hlast hold] at h
      cases h
      exact ⟨i, _, _, _, rfl, .remove, rfl⟩
    | replace t =>
      rw [perform, replace_eq_ok hc hlast hold] at h
      cases h
      exact ⟨i, _, _, _, rfl, .replace t, rfl⟩
    | merge other combine =>
      rcases merge_cases hc hr hlast other combine with ⟨-, he⟩ | ⟨-, -, he⟩ | ⟨t, u, hne, -, hu, hmerge⟩
      · rw [perform, he] at h
        cases h
      · rw [perform, he] at h
        cases h
      · rw [perform, hmerge] at h
        cases h
        have hother : other < s.size := (List.getElem?_eq_some_iff.1 hu).1
        exact ⟨i, _, _, _, rfl, .merge hne hother combine (combine t u), rfl⟩
    | split divide =>
      rw [perform, split_eq_ok hc hlast hold] at h
      cases h
      exact ⟨i, _, _, _, rfl, .split divide (divide old).1 (divide old).2, rfl⟩
    | _ => cases ha

/-- What an edit leaves behind, done by a cursor that stands within the bounds of the sequence if it follows it. -/
theorem advances_of_perform {a : Action α σ} (ha : a.isEdit = true) (hsound : c.Follows s → c.InRange s)
    (h : a.perform c s = .ok (x, c', s')) : Advances c s c' s' := by
  have hc : c.Follows s := follows_of_perform (isIdle_of_isEdit ha) h
  have hr : c.InRange s := hsound hc
  obtain ⟨i, next, last, tokens, hi, hedited, hafter⟩ := edited_of_perform ha hc hr h
  cases hafter
  exact hedited.advances hc hr hi

/-- An action that succeeds changes the size by its growth. -/
theorem size_of_perform {a : Action α σ} (hsound : c.Follows s → c.InRange s)
    (h : a.perform c s = .ok (x, c', s')) : (s'.size : Int) = s.size + a.growth := by
  cases hedit : a.isEdit with
  | true =>
    have hc : c.Follows s := follows_of_perform (isIdle_of_isEdit hedit) h
    have hr : c.InRange s := hsound hc
    obtain ⟨i, next, last, tokens, hi, hedited, hafter⟩ := edited_of_perform hedit hc hr h
    cases hafter
    exact hedited.length_eq (hr.last i hi)
  | false => rw [(keeps_of_perform hedit hsound h).size, growth_of_not_isEdit hedit, Int.add_zero]

end Action

end TextAnalysis.Cursor
