/-
# Runs of a cursor and an editor

A cursor that is the only one on its sequence and an editor of labelled tokens do the same actions. After any run
they are in step: the editor has the tokens of the sequence, and the marked token is the one that the cursor visited
last. So what holds of the editor holds of the cursor.
-/
import TextAnalysis.Proofs.Cursors.Refinement

namespace TextAnalysis

open Cursor (Action Answer Site)

variable {α σ : Type}

/-! ## Sizes -/

namespace Cursor

/-- By how much an action changes the size of a sequence. -/
def Site.growth (x : Site α) (a : Action α σ) : Int :=
  match a.perform x.cursor x.sequence with
  | .ok _ => a.growth
  | .error _ => 0

/-- An action changes the size by the growth at the site. -/
theorem Site.size_next {x : Site α} (hsound : x.cursor.Follows x.sequence → x.cursor.InRange x.sequence)
    (a : Action α σ) : ((x.next a).sequence.size : Int) = x.sequence.size + x.growth a := by
  unfold Site.growth
  cases h : a.perform x.cursor x.sequence with
  | ok r =>
    rw [next_of_ok h]
    exact a.size_of_perform hsound h
  | error e =>
    rw [next_of_error h]
    exact (Int.add_zero _).symm

/-- A cursor that follows a sequence within its bounds still does after an action. -/
theorem Site.valid_next {x : Site α} (hc : x.cursor.Follows x.sequence) (hr : x.cursor.InRange x.sequence)
    (a : Action α σ) :
    (x.next a).cursor.Follows (x.next a).sequence ∧ (x.next a).cursor.InRange (x.next a).sequence := by
  cases h : a.perform x.cursor x.sequence with
  | error e =>
    rw [next_of_error h]
    exact ⟨hc, hr⟩
  | ok r =>
    rw [next_of_ok h]
    by_cases hedit : a.isEdit = true
    · have hadvances := a.advances_of_perform hedit (fun _ => hr) h
      exact ⟨hadvances.follows_after, hadvances.inRange⟩
    · rw [Bool.not_eq_true] at hedit
      have hkeeps := a.keeps_of_perform hedit (fun _ => hr) h
      exact ⟨hkeeps.follows hc, hkeeps.inRange hr⟩

end Cursor

/-! ## Runs -/

/-- The cursor and the sequence after actions. -/
def Cursor.Site.run (x : Site α) (actions : List (Action α σ)) : Site α :=
  actions.foldl Site.next x

/-- The sequence with its tokens labelled by their places. -/
def Sequence.labelled (s : Sequence α) : Sequence (Labelled α) :=
  { tokens := s.tokens.mapIdx Labelled.mk, delimiter := s.delimiter, positions := s.positions, edits := s.edits,
    number := s.number }

/-- A cursor on labelled tokens and an editor at its side. The labels less than `given` have been given to tokens. -/
structure Tour (α : Type) where
  site : Site (Labelled α)
  editor : Editor α
  given : Nat

namespace Tour

open Labelled (label token)

/-- A new cursor, and an editor with the same tokens and without a mark. -/
def start (c : Cursor) (s : Sequence α) : Tour α :=
  ⟨⟨c, s.labelled⟩, ⟨s.labelled.tokens, none⟩, s.size⟩

/-- The cursor and the editor do an action. -/
def next (x : Tour α) (a : Action α σ) : Tour α :=
  ⟨x.site.next (a.labelled x.given),
    x.editor.next ((a.labelled x.given).seen x.site.cursor x.site.sequence) (a.labelled x.given), x.given + 2⟩

/-- The cursor and the editor do actions one after the other. -/
def run (x : Tour α) (actions : List (Action α σ)) : Tour α :=
  actions.foldl next x

/-- The labels of the tokens that actions change, replace or take away. -/
def named (x : Tour α) : List (Action α σ) → List Nat
  | [] => []
  | a :: actions => x.editor.named (a.labelled x.given) ++ (x.next a).named actions

/-- The editor is sound and shows the tokens on which the cursor stands. -/
structure InStep (x : Tour α) : Prop where
  shows_site : x.editor.Shows x.site
  sound : x.editor.Sound x.given
  follows : x.site.cursor.Follows x.site.sequence
  inRange : x.site.cursor.InRange x.site.sequence

theorem inStep_start {c : Cursor} {s : Sequence α} {index : Nat} (h : Cursor.start s index = .ok c) :
    (start c s).InStep := by
  unfold Cursor.start at h
  split at h
  · cases h
  · rename_i hindex
    cases h
    have hsize : s.labelled.size = s.size := List.length_mapIdx
    -- At the start the labels are the places, so they are different and less than the size.
    have hlabels : (s.tokens.mapIdx Labelled.mk).map label = List.range s.tokens.length := by
      refine List.ext_getElem (by simp) ?_
      simp
    refine ⟨⟨rfl, rfl⟩, ⟨⟨?_, ?_⟩, nofun⟩, ⟨rfl, rfl⟩, ⟨?_, nofun⟩⟩
    · exact hlabels ▸ List.nodup_range
    · intro t ht
      have hmem : t.label ∈ List.range s.tokens.length := hlabels ▸ List.mem_map_of_mem ht
      exact List.mem_range.1 hmem
    · show index ≤ s.labelled.size
      rw [hsize]
      exact Nat.not_lt.1 hindex

/-- The tokens that an action looks at are tokens of the sequence. -/
theorem InStep.mem_of_seen {x : Tour α} (h : x.InStep) (a : Action (Labelled α) σ) :
    ∀ t ∈ a.seen x.site.cursor x.site.sequence, t ∈ x.editor.tokens := by
  intro t ht
  rw [← h.shows_site.tokens]
  by_cases hvisited : a.usesVisited = true
  · rw [Action.seen_of_usesVisited hvisited] at ht
    cases ht
  · rw [Bool.not_eq_true] at hvisited
    obtain ⟨c', -, hlooks⟩ := Action.looks_of_moves hvisited h.follows h.inRange
    exact hlooks.mem t ht

/-- The cursor and the editor stay in step. -/
theorem InStep.next {x : Tour α} (h : x.InStep) (a : Action α σ) : (x.next a).InStep := by
  obtain ⟨hfollows, hrange⟩ := Site.valid_next h.follows h.inRange (a.labelled x.given)
  refine ⟨?_, ?_, hfollows, hrange⟩
  · exact h.shows_site.next h.sound.distinct h.follows h.inRange (a.labelled x.given)
  · exact (h.sound.next (h.mem_of_seen _) a).1

theorem InStep.run {x : Tour α} (h : x.InStep) (actions : List (Action α σ)) : (x.run actions).InStep := by
  induction actions generalizing x with
  | nil => exact h
  | cons a actions ih => exact ih (h.next a)

/-- What satisfies a stronger predicate is the same in two lists if what satisfies a weaker one is. -/
theorem filter_eq_of_imp {β : Type} {p q : β → Bool} {l l' : List β} (h : ∀ t, p t = true → q t = true)
    (heq : l.filter q = l'.filter q) : l.filter p = l'.filter p := by
  have hfilter : ∀ k : List β, k.filter p = (k.filter q).filter p := by
    intro k
    rw [List.filter_filter]
    refine List.filter_congr ?_
    intro t _
    cases hp : p t with
    | false => rfl
    | true => rw [h t hp]; rfl
  rw [hfilter l, hfilter l', heq]

/-- The tokens that no action of a run names stay in their order, and no other token gets a label of theirs. -/
theorem InStep.filter_run {x : Tour α} (h : x.InStep) (actions : List (Action α σ)) :
    (x.run actions).editor.tokens.filter (fun t => t.label < x.given ∧ t.label ∉ x.named actions) =
      x.editor.tokens.filter fun t => t.label < x.given ∧ t.label ∉ x.named actions := by
  induction actions generalizing x with
  | nil => rfl
  | cons a actions ih =>
    have hfirst := (h.sound.next (h.mem_of_seen (a.labelled x.given)) a).2
    have hrest := ih (h.next a)
    refine (filter_eq_of_imp ?_ hrest).trans (filter_eq_of_imp ?_ hfirst)
    · intro t ht
      rw [decide_eq_true_eq, named, List.mem_append, not_or] at ht
      exact decide_eq_true ⟨Nat.lt_add_right 2 ht.1, ht.2.2⟩
    · intro t ht
      rw [decide_eq_true_eq, named, List.mem_append, not_or] at ht
      exact decide_eq_true ⟨ht.1, ht.2.1⟩

/-- Without labels a run of the cursor is the same. -/
theorem image_run (x : Tour α) (actions : List (Action α σ)) :
    (x.site.image token).run actions = (x.run actions).site.image token := by
  induction actions generalizing x with
  | nil => rfl
  | cons a actions ih =>
    show ((x.site.image token).next a).run actions = _
    rw [Site.next_labelled x.site a x.given]
    exact ih (x.next a)

theorem image_start (c : Cursor) (s : Sequence α) : (start c s).site.image token = ⟨c, s⟩ := by
  have htokens : (s.tokens.mapIdx Labelled.mk).map token = s.tokens := by
    refine List.ext_getElem (by simp) ?_
    simp
  show (⟨c, { s with tokens := (s.tokens.mapIdx Labelled.mk).map token }⟩ : Site α) = ⟨c, s⟩
  rw [htokens]

/-- The cursor answers the marked token when asked for the token visited last. -/
theorem InStep.current_eq {x : Tour α} (h : x.InStep) :
    x.site.cursor.current x.site.sequence =
      match x.editor.mark with
      | some t => .ok t
      | none => .error .nothingVisited := by
  have hmark := h.shows_site.mark
  cases hlast : x.site.cursor.last with
  | none =>
    rw [Cursor.marked_of_none hlast] at hmark
    rw [← hmark, Cursor.current, Cursor.check_eq_ok_iff.2 h.follows, Cursor.visited, hlast]
    rfl
  | some i =>
    obtain ⟨t, ht⟩ := h.inRange.exists_token hlast
    rw [Cursor.marked_of_last hlast, ht] at hmark
    rw [← hmark, Cursor.current_eq_ok h.follows hlast ht]

/-- A step marks the token that it answers. -/
theorem mark_of_step (x : Tour α) {a : Action α σ} (ha : a = .forward ∨ a = .backward) {t : Labelled α} {c : Cursor}
    {s : Sequence (Labelled α)}
    (h : (a.labelled x.given).perform x.site.cursor x.site.sequence = .ok (.token t, c, s)) :
    (x.next a).editor.mark = some t := by
  rcases ha with rfl | rfl
  · obtain ⟨r, hr, hanswer⟩ := map_eq_ok.1 h
    cases hanswer
    show ((x.site.cursor.forward x.site.sequence).toOption.toList.map Prod.fst).getLast?.or _ = _
    rw [hr]
    rfl
  · obtain ⟨r, hr, hanswer⟩ := map_eq_ok.1 h
    cases hanswer
    show ((x.site.cursor.backward x.site.sequence).toOption.toList.map Prod.fst).getLast?.or _ = _
    rw [hr]
    rfl

/-- **A cursor is an editor of a marked list.** A new cursor, as the only one on its sequence, does any actions. The
same actions are done on labelled tokens, at the side of an editor. Without the labels the cursor and the sequence are
the same, and so is what any further action gives. The labelled tokens are those of the editor and different from each
other. Asked for the token visited last the cursor answers the marked one, and where no token is marked it reports
that none was visited; a step marks the token that it answers. The tokens that no further action names stay, each
once and in the same order. And a further action adds one to the size, takes one away or leaves it as it is. -/
theorem run_refines {s : Sequence α} {index : Nat} {c : Cursor} (hstart : Cursor.start s index = .ok c)
    (before after : List (Action α σ)) (a : Action α σ) :
    let x := (start c s).run before
    let plain := (Site.mk c s).run before
    plain = x.site.image token ∧
      a.perform plain.cursor plain.sequence =
        ((a.labelled x.given).perform x.site.cursor x.site.sequence).map Cursor.unlabelled ∧
      x.site.sequence.tokens = x.editor.tokens ∧
      (x.editor.tokens.map label).Nodup ∧
      (x.site.cursor.current x.site.sequence =
        match x.editor.mark with
        | some t => .ok t
        | none => .error .nothingVisited) ∧
      (∀ t c' s', a = .forward ∨ a = .backward →
        (a.labelled x.given).perform x.site.cursor x.site.sequence = .ok (.token t, c', s') →
        (x.next a).editor.mark = some t) ∧
      (x.run after).editor.tokens.filter (fun t => t.label < x.given ∧ t.label ∉ x.named after) =
        x.editor.tokens.filter (fun t => t.label ∉ x.named after) ∧
      ((plain.next a).sequence.size : Int) = plain.sequence.size + plain.growth a := by
  intro x plain
  have hstep : x.InStep := (inStep_start hstart).run before
  have hplain : plain = x.site.image token := by
    show (⟨c, s⟩ : Site α).run before = _
    rw [← image_start c s]
    exact image_run (start c s) before
  -- The size is that of the sequence without labels, whose cursor stands where the one with labels does.
  have hrange : plain.cursor.InRange plain.sequence := by
    have hsize : (x.site.sequence.image token).size = x.site.sequence.size := Sequence.size_image ..
    rw [hplain]
    constructor
    · exact Nat.le_trans hstep.inRange.next (Nat.le_of_eq hsize.symm)
    · intro i hi
      exact Nat.lt_of_lt_of_le (hstep.inRange.last i hi) (Nat.le_of_eq hsize.symm)
  refine ⟨hplain, ?_, hstep.shows_site.tokens, hstep.sound.distinct.nodup, hstep.current_eq, ?_, ?_, ?_⟩
  · rw [hplain]
    exact a.perform_labelled x.given x.site.cursor x.site.sequence
  · intro t c' s' ha h
    exact mark_of_step x ha h
  · rw [hstep.filter_run after]
    refine List.filter_congr ?_
    intro t ht
    rw [decide_eq_decide]
    exact and_iff_right (hstep.sound.distinct.lt t ht)
  · exact Site.size_next (fun _ => hrange) a

/-- A token is added before one that was passed over backwards. The mark stays, and a merge of the marked token with
the first one leaves the other two. -/
theorem run_refines_addAfterStepBack :
    ∃ (s : Sequence Char) (c : Cursor) (before after : List (Cursor.Action Char Unit)) (x : Tour Char),
      s = .ofList ['a', 'b', 'c'] ∧ before = [.forward, .forward, .backward, .add 'x'] ∧
      after = [.merge 0 fun t _ => t] ∧ x = (start c s).run before ∧
      Cursor.start s 0 = .ok c ∧
      (Site.mk c s).run before = x.site.image token ∧
      x.site.sequence.tokens = [⟨0, 'a'⟩, ⟨9, 'x'⟩, ⟨1, 'b'⟩, ⟨2, 'c'⟩] ∧
      x.site.cursor.current x.site.sequence = .ok ⟨1, 'b'⟩ ∧
      (x.run after).editor.tokens.filter (fun t => t.label < x.given ∧ t.label ∉ x.named after) =
        [⟨9, 'x'⟩, ⟨2, 'c'⟩] := by
  have hstart : Cursor.start (.ofList ['a', 'b', 'c']) 0 = .ok ⟨0, 0, 0, none⟩ := rfl
  have hrun := run_refines hstart ([.forward, .forward, .backward, .add 'x'] : List (Cursor.Action Char Unit))
    [.merge 0 fun t _ => t] .current
  obtain ⟨hplain, -, htokens, -, hcurrent, -, hkept, -⟩ := hrun
  exact ⟨_, _, _, _, _, rfl, rfl, rfl, rfl, hstart, hplain, htokens.trans rfl, hcurrent.trans rfl, hkept.trans rfl⟩

end Tour

end TextAnalysis
