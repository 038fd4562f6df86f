/-
# A cursor edits a marked list

A cursor that is the only one on its sequence does what an editor of a marked list of labelled tokens does. To see
it, the tokens of the sequence get labels, and the cursor and the editor do the same actions side by side. Without
the labels the cursor would do the same.
-/
import TextAnalysis.Proofs.Cursors.Editor
import TextAnalysis.Proofs.Cursors.Images
import TextAnalysis.Proofs.Cursors.Observed

namespace TextAnalysis

open Cursor (Action Answer Site)

variable {α σ : Type}

/-! ## Labels do not matter -/

namespace Cursor

/-- An answer about mapped tokens. -/
def Answer.map {β : Type} (f : α → β) : Answer α → Answer β
  | .nothing => .nothing
  | .token t => .token (f t)
  | .flag b => .flag b
  | .index i => .index i

/-- A site with its tokens mapped. -/
def Site.image {β : Type} (f : α → β) (x : Site α) : Site β :=
  ⟨x.cursor, x.sequence.image f⟩

/-- What an action gives, without labels. -/
def unlabelled (r : Answer (Labelled α) × Cursor × Sequence (Labelled α)) : Answer α × Cursor × Sequence α :=
  (r.1.map Labelled.token, r.2.1, r.2.2.image Labelled.token)

/-- An action does the same on tokens with labels. -/
theorem Action.perform_labelled (a : Action α σ) (n : Nat) (c : Cursor) (s : Sequence (Labelled α)) :
    a.perform c (s.image Labelled.token) = ((a.labelled n).perform c s).map unlabelled := by
  cases a with
  | hasNext =>
    rw [perform, hasNext_image, Action.labelled, perform, map_map_eq]
    rfl
  | hasPrevious =>
    rw [perform, hasPrevious_image, Action.labelled, perform, map_map_eq]
    rfl
  | nextIndex =>
    rw [perform, Cursor.nextIndex, hasNext_image, Action.labelled, perform, map_map_eq]
    rfl
  | previousIndex =>
    rw [perform, Cursor.previousIndex, hasPrevious_image, Action.labelled, perform, map_map_eq]
    rfl
  | forward =>
    rw [perform, forward_image, Action.labelled, perform, map_map_eq, map_map_eq]
    rfl
  | backward =>
    rw [perform, backward_image, Action.labelled, perform, map_map_eq, map_map_eq]
    rfl
  | current =>
    rw [perform, current_image, Action.labelled, perform, map_map_eq, map_map_eq]
    rfl
  | modifyCurrent f =>
    have hmodify := modifyCurrent_image c Labelled.token s (g := fun t => { t with token := f t.token }) fun _ => rfl
    rw [perform, hmodify, Action.labelled, perform, map_map_eq, map_map_eq]
    rfl
  | add t =>
    have hadd := add_image c Labelled.token s ⟨n, t⟩
    rw [perform, hadd, Action.labelled, perform, map_map_eq, map_map_eq]
    rfl
  | remove =>
    rw [perform, remove_image, Action.labelled, perform, map_map_eq, map_map_eq]
    rfl
  | replace t =>
    have hreplace := replace_image c Labelled.token s ⟨n, t⟩
    rw [perform, hreplace, Action.labelled, perform, map_map_eq, map_map_eq]
    rfl
  | merge other combine =>
    have hmerge := merge_image c Labelled.token s other (g := fun t u => ⟨n, combine t.token u.token⟩)
      fun _ _ => rfl
    rw [perform, hmerge, Action.labelled, perform, map_map_eq, map_map_eq]
    rfl
  | split divide =>
    have hsplit : c.split (s.image Labelled.token) divide =
        (c.split s fun t => (⟨n, (divide t.token).1⟩, ⟨n + 1, (divide t.token).2⟩)).map (imageEdited Labelled.token) :=
      split_image c Labelled.token s fun _ => rfl
    rw [perform, hsplit, Action.labelled, perform, map_map_eq, map_map_eq]
    rfl
  | findNext p start limit =>
    rw [perform, findNextM, seekForward_image, Sequence.size_image, Action.labelled, perform, map_map_eq]
    rfl
  | findPrevious p start limit =>
    rw [perform, findPreviousM, seekBackward_image, Sequence.size_image, Action.labelled, perform, map_map_eq]
    rfl

/-- A cursor goes on in the same way if its tokens have labels. -/
theorem Site.next_labelled (x : Site (Labelled α)) (a : Action α σ) (n : Nat) :
    (x.image Labelled.token).next a = (x.next (a.labelled n)).image Labelled.token := by
  have hperform := a.perform_labelled n x.cursor x.sequence
  cases h : (a.labelled n).perform x.cursor x.sequence with
  | ok r =>
    rw [h] at hperform
    rw [next_of_ok h]
    exact next_of_ok hperform
  | error e =>
    rw [h] at hperform
    rw [next_of_error h]
    exact next_of_error hperform

end Cursor

/-! ## The editor shows the sequence -/

namespace Editor

open Labelled

variable {e : Editor α} {c : Cursor} {s : Sequence (Labelled α)} {bound : Nat}

/-- The tokens of the editor are those of the sequence, and the marked token is the one that the cursor visited
last. -/
structure Shows (e : Editor α) (x : Site (Labelled α)) : Prop where
  tokens : x.sequence.tokens = e.tokens
  mark : x.cursor.marked x.sequence = e.mark

/-- Where the cursor has visited no token, an action that needs one changes nothing, and neither does the editor. -/
theorem Shows.next_of_none (h : e.Shows ⟨c, s⟩) (hc : c.Follows s) (hlast : c.last = none)
    {a : Action (Labelled α) σ} (ha : a.usesVisited = true) : (e.next [] a).Shows (Site.next ⟨c, s⟩ a) := by
  have hsite : Site.next ⟨c, s⟩ a = ⟨c, s⟩ := Site.next_of_error (a.perform_of_none ha hc hlast)
  have hmark : e.mark = none := h.mark.symm.trans (Cursor.marked_of_none hlast)
  rw [hsite]
  cases a with
  | current => exact h
  | modifyCurrent | add | remove | replace | merge | split =>
    rw [Editor.next, atMark_of_none hmark]
    exact h
  | _ => cases ha

/-- A token that stands elsewhere has another label. -/
theorem label_ne_of_getElem? (hdistinct : Distinct bound s.tokens) {i j : Nat} {x y : Labelled α}
    (hx : s.tokens[i]? = some x) (hy : s.tokens[j]? = some y) (hne : j ≠ i) : y.label ≠ x.label := by
  have hlabels : ∀ {k : Nat} {t : Labelled α}, s.tokens[k]? = some t → (s.tokens.map label)[k]? = some t.label := by
    intro k t ht
    rw [List.getElem?_map, ht]
    rfl
  intro heq
  have hlt : j < (s.tokens.map label).length := (List.getElem?_eq_some_iff.1 (hlabels hy)).1
  refine hne ((List.getElem?_inj hlt hdistinct.nodup).1 ?_)
  rw [hlabels hx, hlabels hy, heq]

/-- Merging two tokens of the sequence unites them in the editor. -/
theorem merge_eq_unite (hdistinct : Distinct bound s.tokens) {i other : Nat} {x y : Labelled α}
    (hx : s.tokens[i]? = some x) (hy : s.tokens[other]? = some y) (hne : other ≠ i) (new : Labelled α) :
    (s.tokens.set (min i other) new).eraseIdx (max i other) = unite x.label y.label new s.tokens ∧
      ((s.tokens.set (min i other) new).eraseIdx (max i other))[min i other]? = some new := by
  rcases Nat.lt_or_gt_of_ne hne with hlt | hlt
  · obtain ⟨before, between, after, hsplit, rfl, rfl⟩ := Places.exists_split_split hlt hy hx
    rw [hsplit] at hdistinct ⊢
    rw [Nat.min_eq_right (by omega), Nat.max_eq_left (by omega), Places.eraseIdx_set_split,
      (hdistinct.unite_eq new).2]
    exact ⟨rfl, Places.getElem?_split ..⟩
  · obtain ⟨before, between, after, hsplit, rfl, rfl⟩ := Places.exists_split_split hlt hx hy
    rw [hsplit] at hdistinct ⊢
    rw [Nat.min_eq_left (by omega), Nat.max_eq_right (by omega), Places.eraseIdx_set_split,
      (hdistinct.unite_eq new).1]
    exact ⟨rfl, Places.getElem?_split ..⟩

/-- A merge of the token visited last with another one is done by the editor at the mark. -/
theorem Shows.next_merge (h : e.Shows ⟨c, s⟩) (hdistinct : Distinct bound e.tokens) (hc : c.Follows s)
    (hr : c.InRange s) {i : Nat} (hlast : c.last = some i) {x : Labelled α} (hx : s.tokens[i]? = some x) (other : Nat)
    (combine : Labelled α → Labelled α → Labelled α) {a : Action (Labelled α) σ} (ha : a = .merge other combine) :
    (e.next [] a).Shows (Site.next ⟨c, s⟩ a) := by
  subst ha
  have hmark : e.mark = some x := (h.mark.symm.trans (Cursor.marked_of_last hlast)).trans hx
  have htokens : s.tokens = e.tokens := h.tokens
  rw [← htokens] at hdistinct
  rw [Editor.next, atMark_of_some hmark, ← htokens]
  have hstays : ∀ {err : CursorError}, c.merge s other combine = .error err →
      Site.next ⟨c, s⟩ (.merge other combine : Action (Labelled α) σ) = ⟨c, s⟩ := by
    intro err he
    refine Site.next_of_error (e := err) ?_
    rw [Action.perform, he]
    rfl
  rcases Cursor.merge_cases hc hr hlast other combine with ⟨hsize, he⟩ | ⟨hlt, rfl, he⟩ | ⟨t, y, hne, ht, hy, he⟩
  · have hother : s.tokens[other]? = none := List.getElem?_eq_none hsize
    rw [hstays he, hother]
    exact h
  · rw [hstays he, hx]
    dsimp only
    rw [if_pos rfl]
    exact h
  · rw [hx] at ht
    cases ht
    obtain ⟨hunite, hplace⟩ := merge_eq_unite hdistinct hx hy hne (combine x y)
    have hmerge : (Action.merge other combine : Action (Labelled α) σ).perform c s =
        .ok (.nothing, { c with
            next := if other < c.next then c.next - 1 else c.next
            last := some (min i other) }.afterEdit s
          ((s.tokens.set (min i other) (combine x y)).eraseIdx (max i other))) := by
      rw [Action.perform, he]
      rfl
    rw [Site.next_of_ok hmerge, hy]
    dsimp only
    -- The editor tells the two tokens apart by their labels, the cursor by their indices.
    rw [if_neg (label_ne_of_getElem? hdistinct hx hy hne)]
    exact ⟨hunite, hplace⟩

/-- An action at the token visited last is done by the editor at the mark. -/
theorem Shows.next_of_last (h : e.Shows ⟨c, s⟩) (hdistinct : Distinct bound e.tokens) (hc : c.Follows s)
    (hr : c.InRange s) {i : Nat} (hlast : c.last = some i) {a : Action (Labelled α) σ}
    (ha : a.usesVisited = true) : (e.next [] a).Shows (Site.next ⟨c, s⟩ a) := by
  obtain ⟨x, hx⟩ := hr.exists_token hlast
  have hmark : e.mark = some x := (h.mark.symm.trans (Cursor.marked_of_last hlast)).trans hx
  have htokens : s.tokens = e.tokens := h.tokens
  rw [← htokens] at hdistinct
  obtain ⟨before, after, hsplit, rfl⟩ := Places.exists_split hx
  -- The label of the visited token is met nowhere else, so substituting it is a change at its place.
  have hmakesWay : ∀ new : List (Labelled α), substitute x.label new e.tokens = before ++ (new ++ after) := by
    intro new
    rw [← htokens, hsplit]
    exact (hsplit ▸ hdistinct).substitute_eq new
  cases a with
  | current =>
    have hcurrent : (Action.current : Action (Labelled α) σ).perform c s = .ok (.token x, c, s) := by
      rw [Action.perform, Cursor.current_eq_ok hc hlast hx]
      rfl
    rw [Site.next_of_ok hcurrent]
    exact h
  | modifyCurrent f =>
    have hmodify : (Action.modifyCurrent f : Action (Labelled α) σ).perform c s =
        .ok (.nothing, c, { s with tokens := s.tokens.set before.length (f x) }) := by
      rw [Action.perform, Cursor.modifyCurrent_eq_ok hc hlast hx]
      rfl
    rw [Site.next_of_ok hmodify, Editor.next, atMark_of_some hmark, hmakesWay, hsplit, Places.set_split]
    exact ⟨rfl, (Cursor.marked_of_last hlast).trans (Places.getElem?_split before after (f x))⟩
  | add t =>
    have hadd : (Action.add t : Action (Labelled α) σ).perform c s =
        .ok (.nothing,
          { c with last := some (before.length + 1) }.afterEdit s (s.tokens.insertIdx before.length t)) := by
      rw [Action.perform, Cursor.add_eq_ok hc hlast]
      rfl
    rw [Site.next_of_ok hadd, Editor.next, atMark_of_some hmark, hmakesWay, hsplit, Places.insertIdx_split]
    refine ⟨rfl, ?_⟩
    show (before ++ t :: x :: after)[before.length + 1]? = some x
    have hplace := Places.getElem?_split (before ++ [t]) after x
    rw [List.length_append, List.append_assoc] at hplace
    exact hplace
  | remove =>
    have hremove : (Action.remove : Action (Labelled α) σ).perform c s =
        .ok (.token x, { c with
          next := if before.length < c.next then c.next - 1 else c.next
          last := none }.afterEdit s (s.tokens.eraseIdx before.length)) := by
      rw [Action.perform, Cursor.remove_eq_ok hc hlast hx]
      rfl
    rw [Site.next_of_ok hremove, Editor.next, atMark_of_some hmark, hmakesWay, hsplit, Places.eraseIdx_split]
    exact ⟨rfl, rfl⟩
  | replace t =>
    have hreplace : (Action.replace t : Action (Labelled α) σ).perform c s =
        .ok (.token x, c.afterEdit s (s.tokens.set before.length t)) := by
      rw [Action.perform, Cursor.replace_eq_ok hc hlast hx]
      rfl
    rw [Site.next_of_ok hreplace, Editor.next, atMark_of_some hmark, hmakesWay, hsplit, Places.set_split]
    refine ⟨rfl, (Cursor.marked_of_last ?_).trans (Places.getElem?_split before after t)⟩
    exact hlast
  | split divide =>
    have hdivide : (Action.split divide : Action (Labelled α) σ).perform c s =
        .ok (.nothing, c.afterEdit s
          ((s.tokens.set before.length (divide x).1).insertIdx (before.length + 1) (divide x).2)) := by
      rw [Action.perform, Cursor.split_eq_ok hc hlast hx]
      rfl
    have hinsert := Places.insertIdx_split (before ++ [(divide x).1]) after (divide x).2
    rw [List.length_append, List.append_assoc, List.append_assoc] at hinsert
    rw [Site.next_of_ok hdivide, Editor.next, atMark_of_some hmark, hmakesWay, hsplit, Places.set_split]
    have hplace := (congrArg (·[before.length]?) hinsert).trans (Places.getElem?_split before _ (divide x).1)
    refine ⟨hinsert, (Cursor.marked_of_last ?_).trans hplace⟩
    exact hlast
  | merge other combine => exact h.next_merge (htokens ▸ hdistinct) hc hr hlast hx other combine rfl
  | _ => cases ha

/-- **The editor does what the cursor does.** An action of a cursor that follows its sequence, done on distinct tokens
that the editor shows, leaves tokens behind that the editor shows after the action. -/
theorem Shows.next (h : e.Shows ⟨c, s⟩) (hdistinct : Distinct bound e.tokens) (hc : c.Follows s)
    (hr : c.InRange s) (a : Action (Labelled α) σ) :
    (e.next (a.seen c s) a).Shows (Site.next ⟨c, s⟩ a) := by
  by_cases hvisited : a.usesVisited = true
  · rw [Action.seen_of_usesVisited hvisited]
    cases hlast : c.last with
    | none => exact h.next_of_none hc hlast hvisited
    | some i => exact h.next_of_last hdistinct hc hr hlast hvisited
  · rw [Bool.not_eq_true] at hvisited
    obtain ⟨c', hsite, hlooks⟩ := Action.looks_of_moves hvisited hc hr
    have hmark : c'.marked s = (a.seen c s).getLast?.or e.mark := by
      rw [hlooks.marked, ← h.mark]
    rw [hsite]
    cases a with
    | hasNext | hasPrevious | nextIndex | previousIndex | forward | backward | findNext | findPrevious =>
      exact ⟨h.tokens, hmark⟩
    | _ => cases hvisited

end Editor

end TextAnalysis
