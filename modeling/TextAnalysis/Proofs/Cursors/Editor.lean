/-
# Marked lists

A reference for what a cursor does to its sequence. It is a list of tokens that are told apart by labels, one of which
may be marked. It knows nothing of positions between tokens: a token is marked because a cursor has just looked at it,
and an edit is done at the mark, wherever that stands in the list. The main statement says that a token which an edit
does not name stays in the list, once and in its order.
-/
import Mathlib.Data.List.Nodup
import TextAnalysis.Proofs.Cursors.Actions
import TextAnalysis.Proofs.Cursors.Places

namespace TextAnalysis

/-- A token with a label that tells it from others, even from those with the same content. -/
structure Labelled (α : Type) where
  label : Nat
  token : α

namespace Labelled

variable {α : Type}

/-! ## Making way -/

/-- The tokens with a label make way for others. -/
def substitute (label : Nat) (new l : List (Labelled α)) : List (Labelled α) :=
  l.flatMap fun t => if t.label = label then new else [t]

/-- Whichever of two tokens comes first makes way for a new one, and the other one goes away. -/
def unite (x y : Nat) (new : Labelled α) : List (Labelled α) → List (Labelled α)
  | [] => []
  | t :: l =>
    if t.label = x then new :: substitute y [] l
    else if t.label = y then new :: substitute x [] l
    else t :: unite x y new l

/-- The labels of a list are different from each other and less than a bound. -/
structure Distinct (bound : Nat) (l : List (Labelled α)) : Prop where
  nodup : (l.map label).Nodup
  lt : ∀ t ∈ l, t.label < bound

theorem substitute_append (label : Nat) (new l l' : List (Labelled α)) :
    substitute label new (l ++ l') = substitute label new l ++ substitute label new l' :=
  List.flatMap_append

/-- Where no token has the label, none makes way. -/
theorem substitute_of_ne {label : Nat} (new : List (Labelled α)) {l : List (Labelled α)}
    (h : ∀ t ∈ l, t.label ≠ label) : substitute label new l = l := by
  induction l with
  | nil => rfl
  | cons t l ih =>
    have hrest := ih fun u hu => h u (List.mem_cons_of_mem _ hu)
    unfold substitute at hrest ⊢
    rw [List.flatMap_cons, if_neg (h t (List.mem_cons_self ..)), hrest]
    rfl

/-- Distinct labels around one token are different from its label. -/
theorem Distinct.ne_of_split {bound : Nat} {before after : List (Labelled α)} {x : Labelled α}
    (h : Distinct bound (before ++ x :: after)) :
    (∀ t ∈ before, t.label ≠ x.label) ∧ ∀ t ∈ after, t.label ≠ x.label := by
  have hnodup := h.nodup
  rw [List.map_append, List.map_cons, List.nodup_append, List.nodup_cons] at hnodup
  obtain ⟨-, ⟨hafter, -⟩, hdisjoint⟩ := hnodup
  constructor
  · intro t ht
    exact hdisjoint _ (List.mem_map_of_mem ht) _ (List.mem_cons_self ..)
  · intro t ht heq
    exact hafter (heq ▸ List.mem_map_of_mem ht)

/-- The token with a label makes way where it stands. -/
theorem Distinct.substitute_eq {bound : Nat} {before after : List (Labelled α)} {x : Labelled α}
    (h : Distinct bound (before ++ x :: after)) (new : List (Labelled α)) :
    substitute x.label new (before ++ x :: after) = before ++ (new ++ after) := by
  obtain ⟨hbefore, hafter⟩ := h.ne_of_split
  rw [substitute_append, substitute_of_ne new hbefore]
  unfold substitute
  rw [List.flatMap_cons, if_pos rfl]
  exact congrArg (fun rest => before ++ (new ++ rest)) (substitute_of_ne new hafter)

/-- Distinct labels stay distinct if a token makes way for tokens whose labels are its own or new. -/
theorem Distinct.replace {bound bound' : Nat} {before after : List (Labelled α)} {x : Labelled α}
    (h : Distinct bound (before ++ x :: after)) (hbound : bound ≤ bound') (new : List (Labelled α))
    (hnodup : (new.map label).Nodup)
    (hnew : ∀ t ∈ new, (t.label = x.label ∨ bound ≤ t.label) ∧ t.label < bound') :
    Distinct bound' (before ++ (new ++ after)) := by
  obtain ⟨hbefore, hafter⟩ := h.ne_of_split
  have hold : ∀ t ∈ before ++ x :: after, t.label < bound := h.lt
  -- A new label is that of no other token.
  have hother : ∀ t ∈ new, ∀ u ∈ before ++ x :: after, u.label ≠ x.label → t.label ≠ u.label := by
    intro t ht u hu hne heq
    have hlt := hold u hu
    rcases (hnew t ht).1 with hx | hle
    · exact hne (heq.symm.trans hx)
    · omega
  have hlists := h.nodup
  rw [List.map_append, List.map_cons, List.nodup_append, List.nodup_cons] at hlists
  obtain ⟨hnodupBefore, ⟨-, hnodupAfter⟩, hdisjoint⟩ := hlists
  constructor
  · rw [List.map_append, List.map_append, List.nodup_append, List.nodup_append]
    refine ⟨hnodupBefore, ⟨hnodup, hnodupAfter, ?_⟩, ?_⟩
    · intro m hm m' hm' heq
      obtain ⟨t, ht, rfl⟩ := List.mem_map.1 hm
      obtain ⟨u, hu, rfl⟩ := List.mem_map.1 hm'
      exact hother t ht u (by simp [hu]) (hafter u hu) heq
    · intro m hm m' hm' heq
      obtain ⟨t, ht, rfl⟩ := List.mem_map.1 hm
      rcases List.mem_append.1 hm' with hm' | hm'
      · obtain ⟨u, hu, rfl⟩ := List.mem_map.1 hm'
        exact hother u hu t (by simp [ht]) (hbefore t ht) heq.symm
      · exact hdisjoint _ (List.mem_map_of_mem ht) m' (List.mem_cons_of_mem _ hm') heq
  · intro t ht
    rcases List.mem_append.1 ht with hb | hrest
    · exact Nat.lt_of_lt_of_le (hold t (by simp [hb])) hbound
    · rcases List.mem_append.1 hrest with hn | ha
      · exact (hnew t hn).2
      · exact Nat.lt_of_lt_of_le (hold t (by simp [ha])) hbound

/-- Two tokens unite where the first of them stands, whichever that is. -/
theorem Distinct.unite_eq {bound : Nat} {before between after : List (Labelled α)} {x y : Labelled α}
    (h : Distinct bound (before ++ x :: (between ++ y :: after))) (new : Labelled α) :
    unite x.label y.label new (before ++ x :: (between ++ y :: after)) = before ++ new :: (between ++ after) ∧
      unite y.label x.label new (before ++ x :: (between ++ y :: after)) =
        before ++ new :: (between ++ after) := by
  have hsplit : before ++ x :: (between ++ y :: after) = (before ++ x :: between) ++ y :: after := by simp
  have hy := (hsplit ▸ h).ne_of_split
  -- Both are passed over until the first of the two is met, so the induction is on what stands in front of it.
  induction before with
  | nil =>
    have hbetween : ∀ t ∈ between, t.label ≠ y.label := fun t ht => hy.1 t (by simp [ht])
    have hxy : x.label ≠ y.label := hy.1 x (by simp)
    have hrest : substitute y.label [] (between ++ y :: after) = between ++ after := by
      rw [substitute_append, substitute_of_ne [] hbetween]
      unfold substitute
      rw [List.flatMap_cons, if_pos rfl, List.nil_append]
      exact congrArg (between ++ ·) (substitute_of_ne [] hy.2)
    constructor
    · rw [List.nil_append, unite, if_pos rfl, hrest]
      rfl
    · rw [List.nil_append, unite, if_neg hxy, if_pos rfl, hrest]
      rfl
  | cons t before ih =>
    have hx := (h.ne_of_split).1 t (List.mem_cons_self ..)
    have hty := hy.1 t (List.mem_cons_self ..)
    have htail : Distinct bound (before ++ x :: (between ++ y :: after)) :=
      ⟨(List.nodup_cons.1 h.nodup).2, fun u hu => h.lt u (List.mem_cons_of_mem _ hu)⟩
    obtain ⟨hxy, hyx⟩ := ih htail (by simp) ⟨fun u hu => hy.1 u (List.mem_cons_of_mem _ hu), hy.2⟩
    constructor
    · rw [List.cons_append, unite, if_neg hx, if_neg hty, hxy]
      rfl
    · rw [List.cons_append, unite, if_neg hty, if_neg hx, hyx]
      rfl

end Labelled

open Labelled

/-! ## Labelled actions -/

/-- An action on labelled tokens. The tokens that it makes anew get the labels `n` and `n + 1`, and a change of content
keeps the label. -/
def Cursor.Action.labelled {α σ : Type} (n : Nat) : Cursor.Action α σ → Cursor.Action (Labelled α) σ
  | hasNext => hasNext
  | hasPrevious => hasPrevious
  | nextIndex => nextIndex
  | previousIndex => previousIndex
  | forward => forward
  | backward => backward
  | current => current
  | modifyCurrent f => modifyCurrent fun t => { t with token := f t.token }
  | add t => add ⟨n, t⟩
  | remove => remove
  | replace t => replace ⟨n, t⟩
  | merge other combine => merge other fun t u => ⟨n, combine t.token u.token⟩
  | split divide => split fun t => (⟨n, (divide t.token).1⟩, ⟨n + 1, (divide t.token).2⟩)
  | findNext p start limit => findNext (fun t => p t.token) start limit
  | findPrevious p start limit => findPrevious (fun t => p t.token) start limit

/-! ## Editors -/

/-- Labelled tokens, one of which may be marked. -/
structure Editor (α : Type) where
  tokens : List (Labelled α)
  mark : Option (Labelled α) := none

namespace Editor

variable {α σ : Type}

/-- Edits at the mark. Without a mark nothing happens. -/
def atMark (e : Editor α) (edit : Labelled α → Editor α) : Editor α :=
  match e.mark with
  | some x => edit x
  | none => e

/-- What an action does to the list and the mark. `seen` are the tokens that the action looked at on its way: the last
of them gets the mark. A token is added before the mark, and the mark stays where it is. Another token that is put in
place of the marked one gets the mark, and so does the first of two parts. Two tokens unite into a marked one where the
first of them stands. With the marked token the mark goes away. -/
def next (e : Editor α) (seen : List (Labelled α)) : Cursor.Action (Labelled α) σ → Editor α
  | .hasNext | .hasPrevious | .nextIndex | .previousIndex | .current | .forward | .backward | .findNext _ _ _
  | .findPrevious _ _ _ => { e with mark := seen.getLast?.or e.mark }
  | .modifyCurrent f => e.atMark fun x => ⟨substitute x.label [f x] e.tokens, some (f x)⟩
  | .add t => e.atMark fun x => ⟨substitute x.label [t, x] e.tokens, some x⟩
  | .remove => e.atMark fun x => ⟨substitute x.label [] e.tokens, none⟩
  | .replace t => e.atMark fun x => ⟨substitute x.label [t] e.tokens, some t⟩
  | .merge other combine => e.atMark fun x =>
    match e.tokens[other]? with
    | some y =>
      if y.label = x.label then e else ⟨unite x.label y.label (combine x y) e.tokens, some (combine x y)⟩
    | none => e
  | .split divide => e.atMark fun x =>
    ⟨substitute x.label [(divide x).1, (divide x).2] e.tokens, some (divide x).1⟩

/-- The labels of the tokens that an action changes, replaces or takes away. -/
def named (e : Editor α) : Cursor.Action (Labelled α) σ → List Nat
  | .modifyCurrent _ | .remove | .replace _ | .split _ => e.mark.toList.map label
  | .merge other _ => e.mark.toList.map label ++ e.tokens[other]?.toList.map label
  | _ => []

/-- Labels are distinct, and the marked token is in the list. -/
structure Sound (e : Editor α) (bound : Nat) : Prop where
  distinct : Distinct bound e.tokens
  mark : ∀ x, e.mark = some x → x ∈ e.tokens

theorem atMark_of_some {e : Editor α} {x : Labelled α} (h : e.mark = some x) (edit : Labelled α → Editor α) :
    e.atMark edit = edit x := by
  unfold atMark
  rw [h]

theorem atMark_of_none {e : Editor α} (h : e.mark = none) (edit : Labelled α → Editor α) : e.atMark edit = e := by
  unfold atMark
  rw [h]

/-- What holds without an edit, and after an edit of any marked token, holds after an edit at the mark. -/
theorem atMark_cases {motive : Editor α → Prop} (e : Editor α) (edit : Labelled α → Editor α) (hnone : motive e)
    (hsome : ∀ x, e.mark = some x → motive (edit x)) : motive (e.atMark edit) := by
  cases hx : e.mark with
  | none =>
    rw [atMark_of_none hx]
    exact hnone
  | some x =>
    rw [atMark_of_some hx]
    exact hsome x hx

/-- A greater bound does no harm. -/
theorem Sound.mono {e : Editor α} {bound bound' : Nat} (h : e.Sound bound) (hle : bound ≤ bound') : e.Sound bound' :=
  ⟨⟨h.distinct.nodup, fun t ht => Nat.lt_of_lt_of_le (h.distinct.lt t ht) hle⟩, h.mark⟩

/-- The marked token makes way for tokens with its own label or new ones. Tokens of which neither it nor any of the
others is one stay as they are. -/
theorem Sound.substitute {e : Editor α} {n : Nat} (h : e.Sound n) {x : Labelled α} (hx : e.mark = some x)
    (new : List (Labelled α)) (mark : Option (Labelled α)) (hnodup : (new.map label).Nodup)
    (hnew : ∀ t ∈ new, (t.label = x.label ∨ n ≤ t.label) ∧ t.label < n + 2)
    (hmark : ∀ t, mark = some t → t ∈ new) :
    (⟨Labelled.substitute x.label new e.tokens, mark⟩ : Editor α).Sound (n + 2) ∧
      ∀ p : Labelled α → Bool, new.filter p = [x].filter p →
        (Labelled.substitute x.label new e.tokens).filter p = e.tokens.filter p := by
  obtain ⟨before, after, hsplit⟩ := List.append_of_mem (h.mark x hx)
  have hdistinct := h.distinct
  rw [hsplit] at hdistinct ⊢
  rw [hdistinct.substitute_eq new]
  refine ⟨⟨hdistinct.replace (Nat.le_add_right n 2) new hnodup hnew, ?_⟩, ?_⟩
  · intro t ht
    exact List.mem_append_right _ (List.mem_append_left _ (hmark t ht))
  · intro p hp
    rw [List.filter_append, List.filter_append, hp, ← List.filter_append, ← List.filter_append]
    rfl

/-- The marked token and another one unite into a token with a new label. -/
theorem Sound.unite {e : Editor α} {n other : Nat} (h : e.Sound n) {x y : Labelled α} (hx : e.mark = some x)
    (hy : e.tokens[other]? = some y) (hne : y.label ≠ x.label) (new : Labelled α) (hnew : new.label = n) :
    (⟨Labelled.unite x.label y.label new e.tokens, some new⟩ : Editor α).Sound (n + 2) ∧
      ∀ p : Labelled α → Bool, p x = false → p y = false → p new = false →
        (Labelled.unite x.label y.label new e.tokens).filter p = e.tokens.filter p := by
  -- Uniting is making way twice, for the new token and for nothing.
  have hunite : ∀ {before between after : List (Labelled α)} {u v : Labelled α},
      Distinct n (before ++ u :: (between ++ v :: after)) →
      Distinct (n + 2) (before ++ new :: (between ++ after)) := by
    intro before between after u v hdistinct
    have hfirst : Distinct (n + 2) (before ++ ([new] ++ (between ++ v :: after))) :=
      hdistinct.replace (Nat.le_add_right n 2) [new] (List.nodup_singleton _) (by simp [hnew])
    have hsplit : before ++ ([new] ++ (between ++ v :: after)) = (before ++ new :: between) ++ v :: after := by
      simp
    rw [hsplit] at hfirst
    have hsecond := hfirst.replace (Nat.le_refl _) [] List.nodup_nil (by simp)
    have hjoin : (before ++ new :: between) ++ ([] ++ after) = before ++ new :: (between ++ after) := by simp
    rwa [hjoin] at hsecond
  have hmem : y ∈ e.tokens := List.mem_of_getElem? hy
  have hdistinct := h.distinct
  obtain ⟨before, rest, hsplit⟩ := List.append_of_mem (h.mark x hx)
  rw [hsplit] at hmem
  rcases List.mem_append.1 hmem with hbefore | hrest
  · obtain ⟨before, between, rfl⟩ := List.append_of_mem hbefore
    have hsplit : e.tokens = before ++ y :: (between ++ x :: rest) := by simp [hsplit]
    rw [hsplit] at hdistinct ⊢
    rw [(hdistinct.unite_eq new).2]
    refine ⟨⟨hunite hdistinct, ?_⟩, ?_⟩
    · rintro t ⟨⟩
      simp
    · intro p hpx hpy hpnew
      simp [hpx, hpy, hpnew]
  · have hrest : y ∈ rest := by
      rcases List.mem_cons.1 hrest with rfl | hrest
      · exact absurd rfl hne
      · exact hrest
    obtain ⟨between, after, rfl⟩ := List.append_of_mem hrest
    rw [hsplit] at hdistinct ⊢
    rw [(hdistinct.unite_eq new).1]
    refine ⟨⟨hunite hdistinct, ?_⟩, ?_⟩
    · rintro t ⟨⟩
      simp
    · intro p hpx hpy hpnew
      simp [hpx, hpy, hpnew]

/-- A labelled action keeps an editor sound. The tokens that it does not name are afterwards those that have an old
label and are not named, in the same order. -/
theorem Sound.next {e : Editor α} {n : Nat} (h : e.Sound n) {seen : List (Labelled α)}
    (hseen : ∀ t ∈ seen, t ∈ e.tokens) (a : Cursor.Action α σ) :
    (e.next seen (a.labelled n)).Sound (n + 2) ∧
      (e.next seen (a.labelled n)).tokens.filter (fun t => t.label < n ∧ t.label ∉ e.named (a.labelled n)) =
        e.tokens.filter fun t => t.label < n ∧ t.label ∉ e.named (a.labelled n) := by
  have hsame : e.Sound (n + 2) := h.mono (Nat.le_add_right n 2)
  have hmove : (⟨e.tokens, seen.getLast?.or e.mark⟩ : Editor α).Sound (n + 2) := by
    refine ⟨hsame.distinct, ?_⟩
    intro x hx
    rcases Option.or_eq_some_iff.1 hx with hlast | ⟨-, hmark⟩
    · exact hseen x (List.mem_of_getLast? hlast)
    · exact h.mark x hmark
  have hlt : ∀ x, e.mark = some x → x.label < n := fun x hx => h.distinct.lt x (h.mark x hx)
  -- Without a mark an edit does nothing, so it remains to look at each edit of a marked token.
  have hedit : ∀ edit p, (∀ x, e.mark = some x →
      (edit x).Sound (n + 2) ∧ (edit x).tokens.filter p = e.tokens.filter p) →
      (e.atMark edit).Sound (n + 2) ∧ (e.atMark edit).tokens.filter p = e.tokens.filter p :=
    fun edit p => atMark_cases (motive := fun e' => e'.Sound (n + 2) ∧ e'.tokens.filter p = e.tokens.filter p)
      e edit ⟨hsame, rfl⟩
  cases a with
  | hasNext | hasPrevious | nextIndex | previousIndex | current | forward | backward | findNext | findPrevious =>
    exact ⟨hmove, rfl⟩
  | modifyCurrent f =>
    refine hedit _ _ ?_
    intro x hx
    have hold := hlt x hx
    obtain ⟨hsound, hkept⟩ := h.substitute hx [{ x with token := f x.token }] (some { x with token := f x.token })
      (List.nodup_singleton _) (by simp; omega) (by simp)
    refine ⟨hsound, hkept _ ?_⟩
    simp [named, hx, Cursor.Action.labelled]
  | add t =>
    refine hedit _ _ ?_
    intro x hx
    have hold := hlt x hx
    obtain ⟨hsound, hkept⟩ := h.substitute hx [⟨n, t⟩, x] (some x) (by simp; omega) (by simp; omega) (by simp)
    refine ⟨hsound, hkept _ ?_⟩
    simp
  | remove =>
    refine hedit _ _ ?_
    intro x hx
    obtain ⟨hsound, hkept⟩ := h.substitute hx [] none List.nodup_nil (by simp) (by simp)
    refine ⟨hsound, hkept _ ?_⟩
    simp [named, hx, Cursor.Action.labelled]
  | replace t =>
    refine hedit _ _ ?_
    intro x hx
    obtain ⟨hsound, hkept⟩ := h.substitute hx [⟨n, t⟩] (some ⟨n, t⟩) (List.nodup_singleton _) (by simp) (by simp)
    refine ⟨hsound, hkept _ ?_⟩
    simp [named, hx, Cursor.Action.labelled]
  | split divide =>
    refine hedit _ _ ?_
    intro x hx
    obtain ⟨hsound, hkept⟩ := h.substitute hx [⟨n, (divide x.token).1⟩, ⟨n + 1, (divide x.token).2⟩]
      (some ⟨n, (divide x.token).1⟩) (by simp) (by simp) (by simp)
    have hnew : ¬ n + 1 < n := by omega
    refine ⟨hsound, hkept _ ?_⟩
    simp [named, hx, hnew, Cursor.Action.labelled]
  | merge other combine =>
    refine hedit _ _ ?_
    intro x hx
    dsimp only [Cursor.Action.labelled]
    cases hy : e.tokens[other]? with
    | none => exact ⟨hsame, rfl⟩
    | some y =>
      dsimp only
      by_cases hsamelabel : y.label = x.label
      · rw [if_pos hsamelabel]
        exact ⟨hsame, rfl⟩
      · rw [if_neg hsamelabel]
        obtain ⟨hsound, hkept⟩ := h.unite hx hy hsamelabel ⟨n, combine x.token y.token⟩ rfl
        refine ⟨hsound, hkept _ ?_ ?_ ?_⟩
        · simp [named, hx]
        · simp [named, hy]
        · simp

end Editor

end TextAnalysis
