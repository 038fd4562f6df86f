/-
# Actions in place

The operations of a cursor written as steps that change the cursor and the sequence in place. What a step has changed
stays changed if a later one stops, and an index that lies outside of the list of tokens stops with no answer. For a
cursor that stands within the bounds of every sequence that it follows neither shows: the steps come to what the action
gives, and an action that fails leaves the cursor and the sequence as they were.
-/
import TextAnalysis.Proofs.Cursors.Effects

namespace TextAnalysis.Cursor

variable {α β σ : Type}

/-! ## Steps -/

/-- Why steps stop before their end: an operation reports a misuse, or an index lies outside of the tokens. -/
inductive Stop where
  | misuse (e : CursorError)
  | outOfBounds
  deriving DecidableEq

/-- A cursor and a sequence that are changed in place. -/
structure Site (α : Type) where
  cursor : Cursor
  sequence : Sequence α

/-- Steps that change a cursor and a sequence in place. -/
abbrev InPlace (α β : Type) := EStateM Stop (Site α) β

namespace InPlace

/-- Asks the cursor without changing anything. -/
def ask (question : Cursor → Sequence α → Except CursorError β) : InPlace α β := fun x =>
  match question x.cursor x.sequence with
  | .ok b => .ok b x
  | .error e => .error (.misuse e) x

/-- Stops with a misuse. -/
def fail (e : CursorError) : InPlace α β := fun x => .error (.misuse e) x

/-- Moves the cursor. -/
def setNext (next : Nat) : InPlace α Unit := fun x => .ok () { x with cursor := { x.cursor with next } }

/-- Notes which token was visited last. -/
def setLast (last : Option Nat) : InPlace α Unit := fun x => .ok () { x with cursor := { x.cursor with last } }

/-- Counts an edit of the sequence, which the cursor has seen. -/
def countEdit : InPlace α Unit := fun x =>
  .ok () { cursor := { x.cursor with edits := x.sequence.edits + 1 }
           sequence := { x.sequence with edits := x.sequence.edits + 1 } }

/-- The token at an index. -/
def readAt (i : Nat) : InPlace α α := fun x =>
  match x.sequence.tokens[i]? with
  | some t => .ok t x
  | none => .error .outOfBounds x

/-- Overwrites the token at an index. -/
def writeAt (i : Nat) (t : α) : InPlace α Unit := fun x =>
  if i < x.sequence.size then
    .ok () { x with sequence := { x.sequence with tokens := x.sequence.tokens.set i t } }
  else .error .outOfBounds x

/-- Inserts a token at an index, which may be the end. -/
def insertAt (i : Nat) (t : α) : InPlace α Unit := fun x =>
  if i ≤ x.sequence.size then
    .ok () { x with sequence := { x.sequence with tokens := x.sequence.tokens.insertIdx i t } }
  else .error .outOfBounds x

/-- Takes the token at an index out. -/
def removeAt (i : Nat) : InPlace α α := fun x =>
  match x.sequence.tokens[i]? with
  | some t => .ok t { x with sequence := { x.sequence with tokens := x.sequence.tokens.eraseIdx i } }
  | none => .error .outOfBounds x

/-! ## Operations -/

/-- Checks the cursor, and gives the index of the token visited last. -/
def checkedIndex : InPlace α Nat := do
  ask check
  ask fun c _ => c.visited

/-- Moves the cursor back if the place at an index before it goes away. -/
def retreat (i : Nat) : InPlace α Unit := do
  let next := (← get).cursor.next
  if i < next then setNext (next - 1)

/-- Passes over the token after the cursor. -/
def forward : InPlace α α := do
  if !(← ask hasNext) then fail .noSuchElement
  let index := (← get).cursor.next
  setLast (some index)
  setNext (index + 1)
  ask fun _ s => tokenAt s index

/-- Passes back over the token before the cursor. -/
def backward : InPlace α α := do
  if !(← ask hasPrevious) then fail .noSuchElement
  setNext ((← get).cursor.next - 1)
  setLast (some (← get).cursor.next)
  let index := (← get).cursor.next
  ask fun _ s => tokenAt s index

/-- Changes the content of the token visited last. -/
def modifyCurrent (f : α → α) : InPlace α Unit := do
  let i ← checkedIndex
  let t ← ask fun _ s => tokenAt s i
  writeAt i (f t)

/-- Inserts a token before the one visited last. -/
def add (t : α) : InPlace α Unit := do
  let i ← checkedIndex
  insertAt i t
  setLast (some (i + 1))
  countEdit

/-- Removes the token visited last. -/
def remove : InPlace α α := do
  let i ← checkedIndex
  let removed ← removeAt i
  retreat i
  setLast none
  countEdit
  return removed

/-- Replaces the token visited last. -/
def replace (t : α) : InPlace α α := do
  let i ← checkedIndex
  let old ← readAt i
  writeAt i t
  countEdit
  return old

/-- Puts what two tokens make at the index of the first. The second one is taken out first, since the first one does
not move by that. -/
def collapse (low high : Nat) (make : α → α → α) : InPlace α Unit := do
  let highToken ← removeAt high
  let lowToken ← removeAt low
  insertAt low (make lowToken highToken)

/-- Combines the token visited last with the one at the index `other`. -/
def merge (other : Nat) (combine : α → α → α) : InPlace α Unit := do
  let i ← checkedIndex
  let size := (← get).sequence.size
  if size ≤ other then fail (.indexOutOfBounds other size)
  if other = i then fail (.mergeWithItself i)
  let low := min i other
  let high := max i other
  collapse low high fun lowToken highToken =>
    if i = low then combine lowToken highToken else combine highToken lowToken
  retreat other
  setLast (some low)
  countEdit

/-- Divides the token visited last in two. -/
def split (divide : α → α × α) : InPlace α Unit := do
  let i ← checkedIndex
  let (kept, new) := divide (← readAt i)
  writeAt i kept
  insertAt (i + 1) new
  countEdit

/-- Passes forward over at most `steps` tokens to one that satisfies a predicate, and back over that one. -/
def seekForward (p : α → StateM σ Bool) : Nat → σ → InPlace α Bool
  | 0, _ => pure false
  | steps + 1, start => do
    if ← ask hasNext then
      let t ← forward
      if outcome (p t) start then
        let _ ← backward
        return true
      else seekForward p steps (finish (p t) start)
    else return false

/-- Passes back over at most `steps` tokens to one that satisfies a predicate, and forward over that one. -/
def seekBackward (p : α → StateM σ Bool) : Nat → σ → InPlace α Bool
  | 0, _ => pure false
  | steps + 1, start => do
    if ← ask hasPrevious then
      let t ← backward
      if outcome (p t) start then
        let _ ← forward
        return true
      else seekBackward p steps (finish (p t) start)
    else return false

end InPlace

/-- The steps of an action. A search without a limit may go one step further than there are tokens, which is enough to
come to the end. -/
def Action.steps : Action α σ → InPlace α (Answer α)
  | hasNext => return .flag (← InPlace.ask Cursor.hasNext)
  | hasPrevious => return .flag (← InPlace.ask Cursor.hasPrevious)
  | nextIndex => return .index (← InPlace.ask Cursor.nextIndex)
  | previousIndex => return .index (← InPlace.ask Cursor.previousIndex)
  | forward => return .token (← InPlace.forward)
  | backward => return .token (← InPlace.backward)
  | current => return .token (← InPlace.ask Cursor.current)
  | modifyCurrent f => do
    InPlace.modifyCurrent f
    return .nothing
  | add t => do
    InPlace.add t
    return .nothing
  | remove => return .token (← InPlace.remove)
  | replace t => return .token (← InPlace.replace t)
  | merge other combine => do
    InPlace.merge other combine
    return .nothing
  | split divide => do
    InPlace.split divide
    return .nothing
  | findNext p start limit => do
    return .flag (← InPlace.seekForward p (limit.getD ((← get).sequence.size + 1)) start)
  | findPrevious p start limit => do
    return .flag (← InPlace.seekBackward p (limit.getD ((← get).sequence.size + 1)) start)

/-! ## What the steps come to -/

/-- What steps come to that do the same as an operation with new values: on success they leave the new cursor and the
new sequence behind, and on failure those that were there before. -/
def report (x : Site α) : Except CursorError (β × Cursor × Sequence α) → EStateM.Result Stop (Site α) β
  | .ok (b, c, s) => .ok b ⟨c, s⟩
  | .error e => .error (.misuse e) x

namespace InPlace

variable {c : Cursor} {s : Sequence α}

/-- A question is answered as the cursor answers it. -/
theorem ask_eq_ok {question : Cursor → Sequence α → Except CursorError β} {b : β} (h : question c s = .ok b) :
    ask question ⟨c, s⟩ = .ok b ⟨c, s⟩ := by
  unfold ask
  rw [h]

theorem ask_eq_error {question : Cursor → Sequence α → Except CursorError β} {e : CursorError}
    (h : question c s = .error e) : ask question ⟨c, s⟩ = .error (.misuse e) ⟨c, s⟩ := by
  unfold ask
  rw [h]

theorem get_eq (x : Site α) : (get : InPlace α (Site α)) x = .ok x x :=
  rfl

theorem readAt_eq {i : Nat} {t : α} (h : s.tokens[i]? = some t) : readAt i ⟨c, s⟩ = .ok t ⟨c, s⟩ := by
  unfold readAt
  rw [h]

theorem removeAt_eq {i : Nat} {t : α} (h : s.tokens[i]? = some t) :
    removeAt i ⟨c, s⟩ = .ok t ⟨c, { s with tokens := s.tokens.eraseIdx i }⟩ := by
  unfold removeAt
  rw [h]

theorem writeAt_eq {i : Nat} (h : i < s.size) (t : α) :
    writeAt i t ⟨c, s⟩ = .ok () ⟨c, { s with tokens := s.tokens.set i t }⟩ := by
  unfold writeAt
  rw [if_pos h]

theorem insertAt_eq {i : Nat} (h : i ≤ s.size) (t : α) :
    insertAt i t ⟨c, s⟩ = .ok () ⟨c, { s with tokens := s.tokens.insertIdx i t }⟩ := by
  unfold insertAt
  rw [if_pos h]

theorem checkedIndex_eq {i : Nat} (hc : c.Follows s) (hi : c.last = some i) :
    checkedIndex ⟨c, s⟩ = .ok i ⟨c, s⟩ := by
  unfold checkedIndex
  rw [bind_of_ok (ask_eq_ok (check_eq_ok_iff.2 hc))]
  exact ask_eq_ok (visited_eq_ok hi)

theorem checkedIndex_of_none (hc : c.Follows s) (hlast : c.last = none) :
    (checkedIndex : InPlace α Nat) ⟨c, s⟩ = .error (.misuse .nothingVisited) ⟨c, s⟩ := by
  unfold checkedIndex
  rw [bind_of_ok (ask_eq_ok (check_eq_ok_iff.2 hc))]
  refine ask_eq_error ?_
  show c.visited = _
  unfold visited
  rw [hlast]

theorem retreat_eq (i : Nat) :
    retreat i ⟨c, s⟩ = .ok () ⟨{ c with next := if i < c.next then c.next - 1 else c.next }, s⟩ := by
  show (if i < c.next then setNext (c.next - 1) else pure ()) (⟨c, s⟩ : Site α) = _
  by_cases h : i < c.next
  · rw [if_pos h, if_pos h]
    rfl
  · rw [if_neg h, if_neg h]
    rfl

/-! ## Moves in place -/

theorem forward_eq (hc : c.Follows s) {t : α} (ht : s.tokens[c.next]? = some t) :
    forward ⟨c, s⟩ = .ok t ⟨{ c with next := c.next + 1, last := some c.next }, s⟩ := by
  have hlt : c.next < s.size := (List.getElem?_eq_some_iff.1 ht).1
  unfold forward
  rw [bind_of_ok (ask_eq_ok (hasNext_eq_ok hc)), decide_eq_true hlt]
  show ask (fun _ s => tokenAt s c.next) ⟨{ c with next := c.next + 1, last := some c.next }, s⟩ = _
  refine ask_eq_ok ?_
  exact tokenAt_eq_ok ht

theorem forward_of_end (hc : c.Follows s) (hend : s.size ≤ c.next) :
    (forward : InPlace α α) ⟨c, s⟩ = .error (.misuse .noSuchElement) ⟨c, s⟩ := by
  unfold forward
  rw [bind_of_ok (ask_eq_ok (hasNext_eq_ok hc)), decide_eq_false (Nat.not_lt.2 hend)]
  rfl

theorem backward_eq (hc : c.Follows s) (hpos : 0 < c.next) {t : α} (ht : s.tokens[c.next - 1]? = some t) :
    backward ⟨c, s⟩ = .ok t ⟨{ c with next := c.next - 1, last := some (c.next - 1) }, s⟩ := by
  unfold backward
  rw [bind_of_ok (ask_eq_ok (hasPrevious_eq_ok hc)), decide_eq_true hpos]
  show ask (fun _ s => tokenAt s (c.next - 1)) ⟨{ c with next := c.next - 1, last := some (c.next - 1) }, s⟩ = _
  refine ask_eq_ok ?_
  exact tokenAt_eq_ok ht

theorem backward_of_end (hc : c.Follows s) (hend : c.next = 0) :
    (backward : InPlace α α) ⟨c, s⟩ = .error (.misuse .noSuchElement) ⟨c, s⟩ := by
  unfold backward
  rw [bind_of_ok (ask_eq_ok (hasPrevious_eq_ok hc)), decide_eq_false (by omega)]
  rfl

/-- A search in place goes where the search goes that moves a new cursor. -/
theorem exists_seekForward_eq (hc : c.Follows s) (hr : c.InRange s) (p : α → StateM σ Bool) (start : σ)
    (steps : Nat) :
    ∃ b c', outcome (Cursor.seekForward s p steps c) start = .ok (b, c') ∧
      seekForward p steps start ⟨c, s⟩ = .ok b ⟨c', s⟩ := by
  induction steps generalizing c start with
  | zero => exact ⟨false, c, rfl, rfl⟩
  | succ steps ih =>
    rcases forward_cases hc with ⟨t, ht, hforward⟩ | ⟨hend, hforward⟩
    · have hkeeps := keeps_forward hc ht
      have hlt : c.next < s.size := (List.getElem?_eq_some_iff.1 ht).1
      rw [seekForward_of_forward hforward, seekForward, bind_of_ok (ask_eq_ok (hasNext_eq_ok hc)),
        decide_eq_true hlt, if_pos rfl, bind_of_ok (forward_eq hc ht)]
      by_cases hfound : outcome (p t) start = true
      · have hback := backward_eq_ok (hkeeps.follows hc) (Nat.succ_pos c.next) ht
        rw [if_pos hfound, if_pos hfound, hback,
          bind_of_ok (backward_eq (hkeeps.follows hc) (Nat.succ_pos c.next) ht)]
        exact ⟨true, _, rfl, rfl⟩
      · rw [if_neg hfound, if_neg hfound]
        exact ih (hkeeps.follows hc) (hkeeps.inRange hr) (finish (p t) start)
    · rw [seekForward_of_end hforward, seekForward, bind_of_ok (ask_eq_ok (hasNext_eq_ok hc)),
        decide_eq_false (Nat.not_lt.2 hend)]
      exact ⟨false, c, rfl, rfl⟩

theorem exists_seekBackward_eq (hc : c.Follows s) (hr : c.InRange s) (p : α → StateM σ Bool) (start : σ)
    (steps : Nat) :
    ∃ b c', outcome (Cursor.seekBackward s p steps c) start = .ok (b, c') ∧
      seekBackward p steps start ⟨c, s⟩ = .ok b ⟨c', s⟩ := by
  induction steps generalizing c start with
  | zero => exact ⟨false, c, rfl, rfl⟩
  | succ steps ih =>
    rcases backward_cases hc hr with ⟨t, hpos, ht, hbackward⟩ | ⟨hend, hbackward⟩
    · have hkeeps := keeps_backward hc ht
      rw [seekBackward_of_backward hbackward, seekBackward,
        bind_of_ok (ask_eq_ok (hasPrevious_eq_ok hc)), decide_eq_true hpos, if_pos rfl,
        bind_of_ok (backward_eq hc hpos ht)]
      by_cases hfound : outcome (p t) start = true
      · have hforward := forward_eq_ok (hkeeps.follows hc) ht
        rw [if_pos hfound, if_pos hfound, hforward, bind_of_ok (forward_eq (hkeeps.follows hc) ht)]
        exact ⟨true, _, rfl, rfl⟩
      · rw [if_neg hfound, if_neg hfound]
        exact ih (hkeeps.follows hc) (hkeeps.inRange hr) (finish (p t) start)
    · have hzero : ¬ 0 < c.next := by omega
      rw [seekBackward_of_end hbackward, seekBackward, bind_of_ok (ask_eq_ok (hasPrevious_eq_ok hc)),
        decide_eq_false hzero]
      exact ⟨false, c, rfl, rfl⟩

/-! ## Edits in place -/

/-- The cursor and the sequence after an edit. -/
def edited (c : Cursor) (s : Sequence α) (tokens : List α) : Site α :=
  ⟨(c.afterEdit s tokens).1, (c.afterEdit s tokens).2⟩

theorem modifyCurrent_eq (hc : c.Follows s) {i : Nat} {t : α} (hi : c.last = some i)
    (ht : s.tokens[i]? = some t) (f : α → α) :
    modifyCurrent f ⟨c, s⟩ = .ok () ⟨c, { s with tokens := s.tokens.set i (f t) }⟩ := by
  have hlt : i < s.size := (List.getElem?_eq_some_iff.1 ht).1
  unfold modifyCurrent
  rw [bind_of_ok (checkedIndex_eq hc hi), bind_of_ok (ask_eq_ok (tokenAt_eq_ok ht))]
  exact writeAt_eq hlt (f t)

theorem add_eq (hc : c.Follows s) (hr : c.InRange s) {i : Nat} (hi : c.last = some i) (t : α) :
    add t ⟨c, s⟩ = .ok () (edited { c with last := some (i + 1) } s (s.tokens.insertIdx i t)) := by
  unfold add
  rw [bind_of_ok (checkedIndex_eq hc hi), bind_of_ok (insertAt_eq (Nat.le_of_lt (hr.last i hi)) t)]
  rfl

theorem remove_eq (hc : c.Follows s) {i : Nat} {t : α} (hi : c.last = some i) (ht : s.tokens[i]? = some t) :
    remove ⟨c, s⟩ = .ok t (edited
      { c with next := if i < c.next then c.next - 1 else c.next, last := none } s (s.tokens.eraseIdx i)) := by
  unfold remove
  rw [bind_of_ok (checkedIndex_eq hc hi), bind_of_ok (removeAt_eq ht), bind_of_ok (retreat_eq i)]
  rfl

theorem replace_eq (hc : c.Follows s) {i : Nat} {old : α} (hi : c.last = some i)
    (hold : s.tokens[i]? = some old) (t : α) :
    replace t ⟨c, s⟩ = .ok old (edited c s (s.tokens.set i t)) := by
  have hlt : i < s.size := (List.getElem?_eq_some_iff.1 hold).1
  unfold replace
  rw [bind_of_ok (checkedIndex_eq hc hi), bind_of_ok (readAt_eq hold), bind_of_ok (writeAt_eq hlt t)]
  rfl

/-- Two tokens taken out, the later one first, and one put in at the smaller index. -/
theorem insertIdx_eraseIdx_eraseIdx (l : List α) {low high : Nat} (h : low < high) (hlow : low < l.length)
    (t : α) : ((l.eraseIdx high).eraseIdx low).insertIdx low t = (l.set low t).eraseIdx high := by
  induction low generalizing l high with
  | zero =>
    match l, high with
    | x :: l, high + 1 => rfl
  | succ low ih =>
    match l, high with
    | x :: l, high + 1 =>
      have htail := ih l (Nat.lt_of_succ_lt_succ h) (Nat.lt_of_succ_lt_succ hlow)
      simp only [List.eraseIdx_cons_succ, List.insertIdx_succ_cons, List.set_cons_succ, htail]

theorem collapse_eq {low high : Nat} (h : low < high) {t u : α} (ht : s.tokens[low]? = some t)
    (hu : s.tokens[high]? = some u) (make : α → α → α) :
    collapse low high make ⟨c, s⟩ =
      .ok () ⟨c, { s with tokens := (s.tokens.set low (make t u)).eraseIdx high }⟩ := by
  have hlow : low < s.tokens.length := (List.getElem?_eq_some_iff.1 ht).1
  have hhigh : high < s.tokens.length := (List.getElem?_eq_some_iff.1 hu).1
  have ht' : (s.tokens.eraseIdx high)[low]? = some t := by
    rw [List.getElem?_eraseIdx_of_lt h, ht]
  have hlength : (s.tokens.eraseIdx high).length = s.tokens.length - 1 := List.length_eraseIdx_of_lt hhigh
  have hinsert : low ≤ ((s.tokens.eraseIdx high).eraseIdx low).length := by
    rw [List.length_eraseIdx_of_lt (by omega), hlength]
    omega
  unfold collapse
  rw [bind_of_ok (removeAt_eq hu), bind_of_ok (removeAt_eq ht'), insertAt_eq hinsert,
    insertIdx_eraseIdx_eraseIdx _ h hlow]

theorem merge_eq (hc : c.Follows s) {i other : Nat} {t u : α} (hi : c.last = some i) (hne : other ≠ i)
    (ht : s.tokens[i]? = some t) (hu : s.tokens[other]? = some u) (combine : α → α → α) :
    merge other combine ⟨c, s⟩ = .ok () (edited
      { c with next := if other < c.next then c.next - 1 else c.next, last := some (min i other) } s
      ((s.tokens.set (min i other) (combine t u)).eraseIdx (max i other))) := by
  have hlt : ¬ s.size ≤ other := Nat.not_le.2 (List.getElem?_eq_some_iff.1 hu).1
  have hcollapse : collapse (min i other) (max i other)
      (fun lowToken highToken =>
        if i = min i other then combine lowToken highToken else combine highToken lowToken) ⟨c, s⟩ =
      .ok () ⟨c, { s with tokens := (s.tokens.set (min i other) (combine t u)).eraseIdx (max i other) }⟩ := by
    rcases Nat.lt_or_gt_of_ne hne with h | h
    · -- The other token comes first.
      have hmin : min i other = other := Nat.min_eq_right (Nat.le_of_lt h)
      have hmax : max i other = i := Nat.max_eq_left (Nat.le_of_lt h)
      rw [hmin, hmax, collapse_eq h hu ht, if_neg (Nat.ne_of_gt h)]
    · have hmin : min i other = i := Nat.min_eq_left (Nat.le_of_lt h)
      have hmax : max i other = other := Nat.max_eq_right (Nat.le_of_lt h)
      rw [hmin, hmax, collapse_eq h ht hu, if_pos rfl]
  unfold merge
  rw [bind_of_ok (checkedIndex_eq hc hi), bind_of_ok (get_eq _)]
  simp only [if_neg hlt, if_neg hne]
  rw [bind_of_ok hcollapse, bind_of_ok (retreat_eq other)]
  rfl

theorem split_eq (hc : c.Follows s) {i : Nat} {t : α} (hi : c.last = some i) (ht : s.tokens[i]? = some t)
    (divide : α → α × α) :
    split divide ⟨c, s⟩ = .ok () (edited c s ((s.tokens.set i (divide t).1).insertIdx (i + 1) (divide t).2)) := by
  have hlt : i < s.size := (List.getElem?_eq_some_iff.1 ht).1
  have hinsert : i + 1 ≤ (s.tokens.set i (divide t).1).length := by
    rw [List.length_set]
    exact hlt
  unfold split
  rw [bind_of_ok (checkedIndex_eq hc hi), bind_of_ok (readAt_eq ht)]
  show (writeAt i (divide t).1 >>= _) (⟨c, s⟩ : Site α) = _
  rw [bind_of_ok (writeAt_eq hlt (divide t).1)]
  show (insertAt (i + 1) (divide t).2 >>= _) (⟨c, { s with tokens := _ }⟩ : Site α) = _
  rw [bind_of_ok (insertAt_eq hinsert (divide t).2)]
  rfl

/-! ## Misuse in place -/

theorem checkedIndex_of_check {e : CursorError} (h : c.check s = .error e) :
    (checkedIndex : InPlace α Nat) ⟨c, s⟩ = .error (.misuse e) ⟨c, s⟩ := by
  unfold checkedIndex
  exact bind_of_error (ask_eq_error h)

theorem merge_of_end (hc : c.Follows s) {i other : Nat} (hi : c.last = some i) (hsize : s.size ≤ other)
    (combine : α → α → α) :
    merge other combine ⟨c, s⟩ = .error (.misuse (.indexOutOfBounds other s.size)) ⟨c, s⟩ := by
  unfold merge
  rw [bind_of_ok (checkedIndex_eq hc hi), bind_of_ok (get_eq _)]
  simp only [if_pos hsize]
  rfl

theorem merge_of_same (hc : c.Follows s) {i : Nat} (hi : c.last = some i) (hsize : i < s.size)
    (combine : α → α → α) :
    merge i combine ⟨c, s⟩ = .error (.misuse (.mergeWithItself i)) ⟨c, s⟩ := by
  unfold merge
  rw [bind_of_ok (checkedIndex_eq hc hi), bind_of_ok (get_eq _)]
  simp only [if_neg (Nat.not_le.2 hsize), if_pos]
  rfl

end InPlace

/-! ## Actions in place -/

namespace Action

variable {c : Cursor} {s : Sequence α}

/-- The steps of an action that is not idle stop at a check that fails, before anything has changed. -/
theorem steps_of_check {a : Action α σ} (ha : a.isIdle = false) {e : CursorError} (h : c.check s = .error e) :
    a.steps ⟨c, s⟩ = .error (.misuse e) ⟨c, s⟩ := by
  have hindex := InPlace.checkedIndex_of_check (α := α) h
  cases a with
  | hasNext => exact bind_of_error (InPlace.ask_eq_error (hasNext_of_check h))
  | hasPrevious => exact bind_of_error (InPlace.ask_eq_error (hasPrevious_of_check h))
  | nextIndex =>
    refine bind_of_error (InPlace.ask_eq_error ?_)
    rw [Cursor.nextIndex, hasNext_of_check h]
    rfl
  | previousIndex =>
    refine bind_of_error (InPlace.ask_eq_error ?_)
    rw [Cursor.previousIndex, hasPrevious_of_check h]
    rfl
  | forward =>
    refine bind_of_error ?_
    exact bind_of_error (InPlace.ask_eq_error (hasNext_of_check h))
  | backward =>
    refine bind_of_error ?_
    exact bind_of_error (InPlace.ask_eq_error (hasPrevious_of_check h))
  | current =>
    refine bind_of_error (InPlace.ask_eq_error ?_)
    rw [Cursor.current, h]
    rfl
  | modifyCurrent | add | remove | replace | merge | split =>
    refine bind_of_error ?_
    exact bind_of_error hindex
  | findNext p start limit =>
    -- A search over at least one step asks first whether there is a token, and that check fails.
    have hlimit : limit ≠ some 0 := by
      rintro rfl
      cases ha
    obtain ⟨count, hcount⟩ := exists_steps hlimit s.size
    have hsearch : InPlace.seekForward p (limit.getD (s.size + 1)) start ⟨c, s⟩ = .error (.misuse e) ⟨c, s⟩ := by
      rw [hcount]
      exact bind_of_error (InPlace.ask_eq_error (hasNext_of_check h))
    rw [steps, bind_of_ok (InPlace.get_eq _)]
    exact bind_of_error hsearch
  | findPrevious p start limit =>
    have hlimit : limit ≠ some 0 := by
      rintro rfl
      cases ha
    obtain ⟨count, hcount⟩ := exists_steps hlimit s.size
    have hsearch : InPlace.seekBackward p (limit.getD (s.size + 1)) start ⟨c, s⟩ = .error (.misuse e) ⟨c, s⟩ := by
      rw [hcount]
      exact bind_of_error (InPlace.ask_eq_error (hasPrevious_of_check h))
    rw [steps, bind_of_ok (InPlace.get_eq _)]
    exact bind_of_error hsearch

/-- An idle action takes no steps. -/
theorem steps_of_isIdle {a : Action α σ} (ha : a.isIdle = true) (c : Cursor) (s : Sequence α) :
    a.steps ⟨c, s⟩ = .ok (.flag false) ⟨c, s⟩ := by
  cases a with
  | findNext p start limit =>
    match limit, ha with
    | some 0, _ => rfl
  | findPrevious p start limit =>
    match limit, ha with
    | some 0, _ => rfl
  | _ => cases ha

/-- Steps that answer give an action that answers. -/
theorem bind_pure_of_ok {β : Type} {x : InPlace α β} {site site' : Site α} {b : β} (h : x site = .ok b site')
    (f : β → Answer α) : (x >>= fun b => pure (f b)) site = .ok (f b) site' := by
  rw [bind_of_ok h]
  rfl

/-- An action that only asks or moves takes steps that come to what it gives. -/
theorem steps_of_moves {a : Action α σ} (ha : a.usesVisited = false) (hc : c.Follows s) (hr : c.InRange s) :
    a.steps ⟨c, s⟩ = report ⟨c, s⟩ (a.perform c s) := by
  cases a with
  | hasNext =>
    rw [perform, hasNext_eq_ok hc]
    exact bind_pure_of_ok (InPlace.ask_eq_ok (hasNext_eq_ok hc)) .flag
  | hasPrevious =>
    rw [perform, hasPrevious_eq_ok hc]
    exact bind_pure_of_ok (InPlace.ask_eq_ok (hasPrevious_eq_ok hc)) .flag
  | nextIndex =>
    have hindex : c.nextIndex s = .ok (if decide (c.next < s.size) then some c.next else none) := by
      rw [Cursor.nextIndex, hasNext_eq_ok hc]
      rfl
    rw [perform, hindex]
    exact bind_pure_of_ok (InPlace.ask_eq_ok hindex) .index
  | previousIndex =>
    have hindex : c.previousIndex s = .ok (if decide (0 < c.next) then some (c.next - 1) else none) := by
      rw [Cursor.previousIndex, hasPrevious_eq_ok hc]
      rfl
    rw [perform, hindex]
    exact bind_pure_of_ok (InPlace.ask_eq_ok hindex) .index
  | forward =>
    rcases forward_cases hc with ⟨t, ht, hforward⟩ | ⟨hend, hforward⟩
    · rw [perform, hforward]
      exact bind_pure_of_ok (InPlace.forward_eq hc ht) .token
    · rw [perform, hforward]
      exact bind_of_error (InPlace.forward_of_end hc hend)
  | backward =>
    rcases backward_cases hc hr with ⟨t, hpos, ht, hbackward⟩ | ⟨hend, hbackward⟩
    · rw [perform, hbackward]
      exact bind_pure_of_ok (InPlace.backward_eq hc hpos ht) .token
    · rw [perform, hbackward]
      exact bind_of_error (InPlace.backward_of_end hc hend)
  | findNext p start limit =>
    obtain ⟨b, c', hsearch, hsteps⟩ :=
      InPlace.exists_seekForward_eq hc hr p start (limit.getD (s.size + 1))
    rw [perform, findNextM, hsearch, steps, bind_of_ok (InPlace.get_eq _)]
    exact bind_pure_of_ok hsteps .flag
  | findPrevious p start limit =>
    obtain ⟨b, c', hsearch, hsteps⟩ :=
      InPlace.exists_seekBackward_eq hc hr p start (limit.getD (s.size + 1))
    rw [perform, findPreviousM, hsearch, steps, bind_of_ok (InPlace.get_eq _)]
    exact bind_pure_of_ok hsteps .flag
  | _ => cases ha

/-- An action at the token visited last takes steps that come to what it gives. -/
theorem steps_of_visited {a : Action α σ} (ha : a.usesVisited = true) (hc : c.Follows s) (hr : c.InRange s)
    {i : Nat} (hi : c.last = some i) : a.steps ⟨c, s⟩ = report ⟨c, s⟩ (a.perform c s) := by
  obtain ⟨t, ht⟩ := hr.exists_token hi
  cases a with
  | current =>
    rw [perform, current_eq_ok hc hi ht]
    exact bind_pure_of_ok (InPlace.ask_eq_ok (current_eq_ok hc hi ht)) .token
  | modifyCurrent f =>
    rw [perform, modifyCurrent_eq_ok hc hi ht]
    exact bind_pure_of_ok (InPlace.modifyCurrent_eq hc hi ht f) fun _ => .nothing
  | add new =>
    rw [perform, add_eq_ok hc hi]
    exact bind_pure_of_ok (InPlace.add_eq hc hr hi new) fun _ => .nothing
  | remove =>
    rw [perform, remove_eq_ok hc hi ht]
    exact bind_pure_of_ok (InPlace.remove_eq hc hi ht) .token
  | replace new =>
    rw [perform, replace_eq_ok hc hi ht]
    exact bind_pure_of_ok (InPlace.replace_eq hc hi ht new) .token
  | merge other combine =>
    rcases merge_cases hc hr hi other combine with
      ⟨hsize, he⟩ | ⟨hsize, rfl, he⟩ | ⟨t, u, hne, ht, hu, hmerge⟩
    · rw [perform, he]
      exact bind_of_error (InPlace.merge_of_end hc hi hsize combine)
    · rw [perform, he]
      exact bind_of_error (InPlace.merge_of_same hc hi hsize combine)
    · rw [perform, hmerge]
      exact bind_pure_of_ok (InPlace.merge_eq hc hi hne ht hu combine) fun _ => .nothing
  | split divide =>
    rw [perform, split_eq_ok hc hi ht]
    exact bind_pure_of_ok (InPlace.split_eq hc hi ht divide) fun _ => .nothing
  | _ => cases ha

/-- An action that needs a token visited last stops where there is none, before anything has changed. -/
theorem steps_of_none {a : Action α σ} (ha : a.usesVisited = true) (hc : c.Follows s) (hlast : c.last = none) :
    a.steps ⟨c, s⟩ = .error (.misuse .nothingVisited) ⟨c, s⟩ := by
  have hindex := InPlace.checkedIndex_of_none (α := α) hc hlast
  cases a with
  | current =>
    refine bind_of_error (InPlace.ask_eq_error ?_)
    rw [Cursor.current, check_eq_ok_iff.2 hc, visited, hlast]
    rfl
  | modifyCurrent | add | remove | replace | merge | split =>
    refine bind_of_error ?_
    exact bind_of_error hindex
  | _ => cases ha

/-- The steps of an action come to what the action gives, done by a cursor that stands within the bounds of the
sequence if it follows it. No index is out of bounds then, and an action that fails has changed nothing. -/
theorem steps_eq (hsound : c.Follows s → c.InRange s) (a : Action α σ) :
    a.steps ⟨c, s⟩ = report ⟨c, s⟩ (a.perform c s) := by
  -- Only a cursor that passes the check gets as far as the tokens.
  cases hcheck : c.check s with
  | ok _ =>
    have hc : c.Follows s := check_eq_ok_iff.1 hcheck
    by_cases hvisited : a.usesVisited = true
    · cases hlast : c.last with
      | none =>
        rw [perform_of_none hvisited hc hlast]
        exact steps_of_none hvisited hc hlast
      | some i => exact steps_of_visited hvisited hc (hsound hc) hlast
    · rw [Bool.not_eq_true] at hvisited
      exact steps_of_moves hvisited hc (hsound hc)
  | error e =>
    by_cases hidle : a.isIdle = true
    · rw [perform_of_isIdle hidle]
      exact steps_of_isIdle hidle c s
    · rw [Bool.not_eq_true] at hidle
      rw [perform_of_check hidle hcheck]
      exact steps_of_check hidle hcheck

end Action

end TextAnalysis.Cursor
