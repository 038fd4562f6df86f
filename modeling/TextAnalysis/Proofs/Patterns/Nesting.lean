/-
# Patterns inside groups

The reader of a text keeps to the groups that it has opened. Further groups around the text, and names that were given
before it, make no difference, as long as no name is given twice and no closing parenthesis comes where the text itself
has opened no group. So a text that writes a pattern on its own writes the same pattern in a group, if the parenthesis
that closes the group is not lost in a comment.
-/
import TextAnalysis.Proofs.Patterns.Steps

namespace TextAnalysis.Pattern

variable {f : Flags} {text later rest : Text} {s s' : State} {c : Char}

/-! ## Further groups and names -/

namespace State

/-- A state inside further groups and behind further names. -/
def within (s : State) (groups : List OpenGroup) (names : List Text) : State :=
  { s with outer := s.outer ++ groups, names := s.names ++ names }

variable {groups : List OpenGroup} {names : List Text}

@[simp] theorem within_flags (s : State) : (s.within groups names).flags = s.flags :=
  rfl

@[simp] theorem within_nil (s : State) : s.within [] [] = s := by
  simp [within]

/-- One outcome is the other one inside further groups and behind further names, unless a name is given twice. -/
structure AlsoWithin (groups : List OpenGroup) (names : List Text) (inner whole : Except PatternError (State × Text)) :
    Prop where
  goesOn : ∀ s rest, inner = .ok (s, rest) → (∀ name ∈ s.names, name ∉ names) →
    whole = .ok (s.within groups names, rest)
  comesFrom : ∀ z rest, whole = .ok (z, rest) → ∃ s, inner = .ok (s, rest) ∧ z = s.within groups names

namespace AlsoWithin

variable {inner whole : Except PatternError (State × Text)}

theorem ok (s : State) (rest : Text) : AlsoWithin groups names (.ok (s, rest)) (.ok (s.within groups names, rest)) where
  goesOn := by
    rintro _ _ ⟨⟩ -
    rfl
  comesFrom := by
    rintro _ _ ⟨⟩
    exact ⟨s, rfl, rfl⟩

theorem error (e e' : PatternError) : AlsoWithin groups names (.error e) (.error e') where
  goesOn := nofun
  comesFrom := nofun

theorem map {α : Type} (x : Except PatternError (α × Text)) {g g' : α → State}
    (h : ∀ a, g' a = (g a).within groups names) :
    AlsoWithin groups names (x.map fun y => (g y.1, y.2)) (x.map fun y => (g' y.1, y.2)) := by
  cases x with
  | error e => exact .error e e
  | ok y =>
    show AlsoWithin groups names (.ok (g y.1, y.2)) (.ok (g' y.1, y.2))
    rw [h]
    exact .ok _ _

theorem bind {α : Type} (x : Except PatternError α) {g g' : α → Except PatternError (State × Text)}
    (h : ∀ a, AlsoWithin groups names (g a) (g' a)) : AlsoWithin groups names (x >>= g) (x >>= g') := by
  cases x with
  | error e => exact .error e e
  | ok a => exact h a

end AlsoWithin

theorem enterNamed_within [CharSet.Tables] (s : State) (text : Text) :
    AlsoWithin groups names (s.enterNamed text) ((s.within groups names).enterNamed text) := by
  refine .bind _ fun x => ?_
  dsimp only
  by_cases hinner : s.names.contains x.1 = true
  · have hwhole : (s.within groups names).names.contains x.1 = true := by
      simp only [within, List.contains_append, hinner, Bool.true_or]
    rw [if_pos hinner, if_pos hwhole]
    exact .error _ _
  · rw [if_neg hinner]
    -- A name that is free here can be taken by what stands before.
    by_cases hmem : x.1 ∈ names
    · have hwhole : (s.within groups names).names.contains x.1 = true :=
        List.contains_iff_mem.2 (List.mem_append_right _ hmem)
      rw [if_pos hwhole]
      refine ⟨?_, nofun⟩
      rintro _ _ ⟨⟩ hnames
      exact absurd hmem (hnames x.1 (List.mem_cons_self ..))
    · have hwhole : ¬ (s.within groups names).names.contains x.1 = true := by
        simp only [within, List.contains_append, Bool.or_eq_true, List.contains_iff_mem, not_or]
        exact ⟨fun h => hinner (List.contains_iff_mem.2 h), hmem⟩
      rw [if_neg hwhole]
      exact .ok _ _

theorem enterFlags_within (s : State) (text : Text) :
    AlsoWithin groups names (s.enterFlags text) ((s.within groups names).enterFlags text) := by
  refine .bind _ fun x => ?_
  dsimp only
  split
  · exact .ok _ _
  · exact .ok _ _

theorem enterSpecial_within [CharSet.Tables] (s : State) (text : Text) :
    AlsoWithin groups names (s.enterSpecial text) ((s.within groups names).enterSpecial text) := by
  cases text with
  | nil => exact .error _ _
  | cons c text =>
    rw [enterSpecial, enterSpecial]
    split
    · exact .error _ _
    · split
      · exact s.enterNamed_within text
      · split
        · exact s.enterNamed_within text.tail
        · exact s.enterFlags_within (c :: text)

theorem enter_within [CharSet.Tables] (s : State) (text : Text) :
    AlsoWithin groups names (s.enter text) ((s.within groups names).enter text) := by
  unfold enter
  rw [within_flags]
  split
  · exact s.enterSpecial_within _
  · exact .ok _ _

theorem closeGroup_within (h : s.outer ≠ []) :
    (s.within groups names).closeGroup = s.closeGroup.map fun s => s.within groups names := by
  obtain ⟨g, outer, houter⟩ := List.exists_cons_of_ne_nil h
  unfold closeGroup
  simp only [within, houter, List.cons_append]
  rfl

theorem leave_within (h : s.outer ≠ []) (text : Text) :
    AlsoWithin groups names (s.leave text) ((s.within groups names).leave text) := by
  unfold leave
  rw [closeGroup_within h]
  cases s.closeGroup with
  | error e => exact .error e e
  | ok s' => exact .ok s' text

theorem repeatLast_within (least : Nat) (most : Option Nat) (lazy : Bool) :
    (s.within groups names).repeatLast least most lazy =
      (s.repeatLast least most lazy).map fun s => s.within groups names := by
  unfold repeatLast
  rw [show (s.within groups names).items = s.items from rfl]
  split <;> rfl

theorem repeated_within (least : Nat) (most : Option Nat) (lazy : Bool) (rest : Text) :
    AlsoWithin groups names ((s.repeatLast least most lazy).map fun s => (s, rest))
      (((s.within groups names).repeatLast least most lazy).map fun s => (s, rest)) := by
  rw [repeatLast_within]
  cases s.repeatLast least most lazy with
  | error e => exact .error e e
  | ok s' => exact .ok s' rest

theorem pushEscaped_within [CharSet.Tables] (s : State) (e : Escaped) :
    (s.within groups names).pushEscaped e = (s.pushEscaped e).within groups names := by
  cases e <;> rfl

theorem readDot_within (s : State) (text : Text) :
    AlsoWithin groups names (s.readDot text) ((s.within groups names).readDot text) := by
  unfold readDot
  rw [within_flags]
  split
  · exact .error _ _
  · exact .ok _ text

theorem readSet_within [CharSet.Tables] (s : State) (text : Text) :
    AlsoWithin groups names (s.readSet text) ((s.within groups names).readSet text) :=
  .bind _ fun _ => .map (g := fun y : CharSet × Nat => s.push (.one y.1) y.2) _ fun _ => rfl

/-! ### Names -/

theorem enterNamed_names [CharSet.Tables] (h : s.enterNamed text = .ok (s', rest)) : s.names <:+ s'.names := by
  obtain ⟨⟨name, mid⟩, -, h⟩ := bind_eq_ok.1 h
  dsimp only at h
  split at h <;> cases h
  exact List.suffix_cons name s.names

theorem enterFlags_names (h : s.enterFlags text = .ok (s', rest)) : s.names <:+ s'.names := by
  obtain ⟨⟨⟨flags, whole⟩, mid⟩, -, h⟩ := bind_eq_ok.1 h
  dsimp only at h
  split at h <;> cases h <;> exact List.suffix_refl _

theorem enter_names [CharSet.Tables] (h : s.enter text = .ok (s', rest)) : s.names <:+ s'.names := by
  unfold enter at h
  split at h
  · unfold enterSpecial at h
    split at h
    · cases h
    · split at h
      · cases h
      · split at h
        · exact enterNamed_names h
        · split at h
          · exact enterNamed_names h
          · exact enterFlags_names h
  · cases h
    exact List.suffix_refl _

theorem closeGroup_names (h : s.closeGroup = .ok s') : s'.names = s.names := by
  unfold closeGroup at h
  split at h <;> cases h
  rfl

theorem readDot_names (h : s.readDot text = .ok (s', rest)) : s'.names = s.names := by
  unfold readDot at h
  split at h <;> cases h
  rfl

theorem repeatLast_names {least : Nat} {most : Option Nat} {lazy : Bool} (h : s.repeatLast least most lazy = .ok s') :
    s'.names = s.names := by
  unfold repeatLast at h
  split at h <;> cases h
  rfl

end State

open State

variable [CharSet.Tables]

/-- One step inside further groups, unless it closes one of them. -/
theorem step_within {groups : List OpenGroup} {names : List Text} (h : c = ')' → s.outer ≠ []) (text : Text) :
    AlsoWithin groups names (step s c text) (step (s.within groups names) c text) := by
  unfold step
  split
  · exact s.enter_within text
  · exact leave_within (h rfl) text
  · exact .ok _ text
  · exact s.readSet_within text
  · exact repeated_within _ _ _ _
  · exact repeated_within _ _ _ _
  · exact repeated_within _ _ _ _
  · exact .bind _ fun x => repeated_within _ _ _ _
  · exact s.readDot_within text
  · exact .ok _ text
  · exact .ok _ text
  · exact .map _ fun e => s.pushEscaped_within e
  · exact .ok _ text

/-! ## Runs of the reader -/

/-- A number of steps leads from a state and a text to another state and the rest of the text. -/
inductive Reaches : Nat → State → Text → State → Text → Prop
  | refl (s : State) (text : Text) : Reaches 0 s text s text
  | step {k : Nat} {s s' e : State} {c : Char} {text rest rest' u : Text} (hskip : skipBlanks s.flags text = c :: rest)
    (hstep : step s c rest = .ok (s', rest')) (h : Reaches k s' rest' e u) : Reaches (k + 1) s text e u

/-- A step leaves less than there was. -/
theorem length_lt_of_step {rest' : Text} (hskip : skipBlanks s.flags text = c :: rest)
    (hstep : step s c rest = .ok (s', rest')) : rest'.length < text.length := by
  have hle := (skipBlanks_suffix s.flags text).length_le
  have hle' := (step_leaves hstep).length_le
  rw [hskip, List.length_cons] at hle
  omega

namespace Reaches

variable {k : Nat} {e : State} {u : Text}

/-- The reader goes on from a state that it reaches. -/
theorem readFrom_eq (h : Reaches k s text e u) (n : Nat) : readFrom (k + n) s text = readFrom n e u := by
  induction h with
  | refl s text => rw [Nat.zero_add]
  | step hskip hstep _ ih => rw [Nat.succ_add, readFrom, hskip, ← ih]; simp only [hstep]

/-- Every step takes a character. -/
theorem le_length (h : Reaches k s text e u) : k + u.length ≤ text.length := by
  induction h with
  | refl s text => rw [Nat.zero_add]
  | step hskip hstep _ ih =>
    have hlt := length_lt_of_step hskip hstep
    omega

/-- Where only blanks are left, no further step can be made. -/
theorem eq_of_nil (h : Reaches k s text e u) (hskip : skipBlanks s.flags text = []) : e = s ∧ u = text := by
  cases h with
  | refl => exact ⟨rfl, rfl⟩
  | step hskip' => cases hskip.symm.trans hskip'

end Reaches

/-- If reading a text ends well, it ends in a state where only blanks are left. -/
theorem exists_reaches {n : Nat} {e : State} (h : readFrom n s text = .ok e) :
    ∃ k u, Reaches k s text e u ∧ skipBlanks e.flags u = [] := by
  induction n generalizing s text with
  | zero => cases h
  | succ n ih =>
    rw [readFrom] at h
    split at h
    · rename_i hskip
      cases h
      exact ⟨0, text, .refl e text, hskip⟩
    · rename_i hskip
      split at h
      · cases h
      · rename_i hstep
        obtain ⟨k, u, hreaches, hu⟩ := ih h
        exact ⟨k + 1, u, .step hskip hstep hreaches, hu⟩

/-- Names are only added. -/
theorem step_names {rest' : Text} (h : step s c rest = .ok (s', rest')) : s.names <:+ s'.names := by
  unfold step at h
  split at h
  · exact enter_names h
  · obtain ⟨s', hclose, heq⟩ := map_eq_ok.1 h
    cases heq
    exact closeGroup_names hclose ▸ List.suffix_refl _
  · cases h
    exact List.suffix_refl _
  · obtain ⟨x, -, h⟩ := bind_eq_ok.1 h
    obtain ⟨y, -, heq⟩ := map_eq_ok.1 h
    cases heq
    exact List.suffix_refl _
  · obtain ⟨s', hrepeat, heq⟩ := map_eq_ok.1 h
    cases heq
    exact repeatLast_names hrepeat ▸ List.suffix_refl _
  · obtain ⟨s', hrepeat, heq⟩ := map_eq_ok.1 h
    cases heq
    exact repeatLast_names hrepeat ▸ List.suffix_refl _
  · obtain ⟨s', hrepeat, heq⟩ := map_eq_ok.1 h
    cases heq
    exact repeatLast_names hrepeat ▸ List.suffix_refl _
  · obtain ⟨x, -, h⟩ := bind_eq_ok.1 h
    obtain ⟨s', hrepeat, heq⟩ := map_eq_ok.1 h
    cases heq
    exact repeatLast_names hrepeat ▸ List.suffix_refl _
  · exact readDot_names h ▸ List.suffix_refl _
  · cases h
    exact List.suffix_refl _
  · cases h
    exact List.suffix_refl _
  · obtain ⟨⟨e, mid⟩, -, heq⟩ := map_eq_ok.1 h
    cases heq
    cases e <;> exact List.suffix_refl _
  · cases h
    exact List.suffix_refl _

theorem Reaches.names {k : Nat} {e : State} {u : Text} (h : Reaches k s text e u) : s.names <:+ e.names := by
  induction h with
  | refl s text => exact List.suffix_refl _
  | step _ hstep _ ih => exact (step_names hstep).trans ih

/-! ### Texts that go on -/

theorem not_openEscape_of_step {rest' : Text} (h : step s c rest = .ok (s', rest')) :
    c = '\\' → ¬ OpenEscape s.flags rest := by
  rintro rfl hopen
  have hfails : ∃ e, step s '\\' rest = .error e := (step_openEscape hopen (List.not_mem_nil : '\n' ∉ [])).1
  obtain ⟨e, he⟩ := hfails
  cases he.symm.trans h

/-- A closing parenthesis closes a group. -/
theorem outer_ne_nil_of_step {rest' : Text} (h : step s c rest = .ok (s', rest')) : c = ')' → s.outer ≠ [] := by
  rintro rfl houter
  obtain ⟨s', hclose, -⟩ := map_eq_ok.1 h
  rw [closeGroup, houter] at hclose
  cases hclose

/-- A text that ends well is read alike in front of a closing parenthesis, inside further groups and behind further
names, unless a name is given twice or a comment that is open at the end of the text ends later. -/
theorem Reaches.append {k : Nat} {e : State} {u : Text} {groups : List OpenGroup} {names : List Text}
    (h : Reaches k s text e u) (hlater : OpenComment e.flags u → '\n' ∉ later)
    (hnames : ∀ name ∈ e.names, name ∉ names) :
    Reaches k (s.within groups names) (text ++ ')' :: later) (e.within groups names) (u ++ ')' :: later) := by
  induction h with
  | refl s text => exact .refl _ _
  | @step k s s' e c text rest rest' u hskip hstep hrest ih =>
    -- One step is the same in the longer text, then the same inside the further groups.
    have hwhole : Pattern.step s c (rest ++ ')' :: later) = .ok (s', rest' ++ ')' :: later) :=
      (extends_step (not_openEscape_of_step hstep) fun s₁ rest₁ h₁ hcomment => by
        cases hstep.symm.trans h₁
        obtain ⟨rfl, rfl⟩ := hrest.eq_of_nil hcomment.skipBlanks_self
        exact hlater hcomment).eq_ok hstep
    have hwithin : Pattern.step (s.within groups names) c (rest ++ ')' :: later) =
        .ok (s'.within groups names, rest' ++ ')' :: later) :=
      (step_within (outer_ne_nil_of_step hstep) _).goesOn s' _ hwhole fun name hname =>
        hnames name (hrest.names.subset hname)
    have hnext : skipBlanks (s.within groups names).flags (text ++ ')' :: later) = c :: (rest ++ ')' :: later) := by
      rcases skipBlanks_append s.flags text with happend | ⟨hnil, -⟩
      · rw [within_flags, happend, hskip]
        rfl
      · cases hskip.symm.trans hnil
    exact .step hnext hwithin (ih hlater hnames)

/-! ## Parentheses that close nothing -/

/-- Reading a text comes to a closing parenthesis where no group is open. -/
inductive Unopened : State → Text → Prop
  | here {s : State} {text rest : Text} (hskip : skipBlanks s.flags text = ')' :: rest) (houter : s.outer = []) :
    Unopened s text
  | later {s s' : State} {c : Char} {text rest rest' : Text} (hskip : skipBlanks s.flags text = c :: rest)
    (hstep : step s c rest = .ok (s', rest')) (h : Unopened s' rest') : Unopened s text

namespace Unopened

theorem readFrom_eq {n : Nat} (h : Unopened s text) (hn : text.length < n) :
    readFrom n s text = .error .unopenedGroup := by
  induction h generalizing n with
  | here hskip houter =>
    obtain ⟨n, rfl⟩ : ∃ m, n = m + 1 := ⟨n - 1, by omega⟩
    have hstep : ∀ rest, Pattern.step _ ')' rest = .error .unopenedGroup := fun rest => by
      show leave _ rest = _
      rw [leave, closeGroup, houter]
      rfl
    rw [readFrom, hskip]
    simp only [hstep]
  | later hskip hstep _ ih =>
    obtain ⟨n, rfl⟩ : ∃ m, n = m + 1 := ⟨n - 1, by omega⟩
    have hlt := length_lt_of_step hskip hstep
    rw [readFrom, hskip]
    simp only [hstep]
    exact ih (by omega)

/-- There is no such parenthesis in a text without parentheses. -/
theorem mem (h : Unopened s text) : ')' ∈ text := by
  induction h with
  | here hskip => exact (skipBlanks_suffix _ _).subset (hskip ▸ List.mem_cons_self ..)
  | later hskip hstep _ ih =>
    exact (skipBlanks_suffix _ _).subset (hskip ▸ List.mem_cons_of_mem _ ((step_leaves hstep).subset ih))

/-- Inside further groups a text ends well only if it closes one of them. -/
theorem of_within {n : Nat} {groups : List OpenGroup} {names : List Text} {x : Pattern × Nat} (hgroups : groups ≠ [])
    (h : readAll n (s.within groups names) text = .ok x) : Unopened s text := by
  obtain ⟨e, hread, hfinish⟩ := bind_eq_ok.1 h
  clear h
  induction n generalizing s text with
  | zero => cases hread
  | succ n ih =>
    rw [readFrom, within_flags] at hread
    split at hread
    · cases hread
      simp [finish, within, hgroups] at hfinish
    · rename_i c rest hskip
      split at hread
      · cases hread
      · rename_i z rest' hstep
        -- A closing parenthesis where no group of the text is open closes one of the further ones.
        by_cases hclose : c = ')' ∧ s.outer = []
        · exact .here (hclose.1 ▸ hskip) hclose.2
        · obtain ⟨s', hinner, rfl⟩ := (step_within (fun hc ho => hclose ⟨hc, ho⟩) rest).comesFrom z rest' hstep
          exact .later hskip hinner (ih hread)

/-- A text that does not end well does not end well either with a closing parenthesis and what has none behind it,
unless it comes to such a parenthesis itself. -/
theorem of_append {n : Nat} {e : PatternError} (hlater : '\n' ∉ later) (hparen : ')' ∉ later)
    (h : Unopened s (text ++ ')' :: later)) (hn : text.length < n) (herror : readAll n s text = .error e) :
    Unopened s text := by
  have hnot : ∀ {s rest}, rest <:+ later → ¬ Unopened s rest := fun hsuffix h => hparen (hsuffix.subset h.mem)
  induction n generalizing s text with
  | zero => exact absurd hn (Nat.not_lt_zero _)
  | succ n ih =>
    rcases skipBlanks_append s.flags text with happend | ⟨-, hcomment⟩
    · cases hskip : skipBlanks s.flags text with
      | nil =>
        -- The parenthesis closes a group that is open at the end of the text.
        have hwhole := happend later
        rw [hskip, List.nil_append] at hwhole
        cases h with
        | here _ houter =>
          rw [readAll, readFrom, hskip] at herror
          simp [finish, houter] at herror
        | later hskip' hstep hrest =>
          cases hwhole.symm.trans hskip'
          obtain ⟨s', -, heq⟩ := map_eq_ok.1 hstep
          cases heq
          exact absurd hrest (hnot (List.suffix_refl _))
      | cons c rest =>
        have hwhole := happend later
        rw [hskip, List.cons_append] at hwhole
        cases h with
        | here hskip' houter =>
          cases hwhole.symm.trans hskip'
          exact .here hskip houter
        | @later _ s' _ _ _ rest' hskip' hstep hrest =>
          cases hwhole.symm.trans hskip'
          by_cases hopen : c = '\\' ∧ OpenEscape s.flags rest
          · obtain ⟨rfl, hopen⟩ := hopen
            rcases (step_openEscape hopen hlater).2 s' rest' hstep with hsuffix | ⟨-, inner, rfl, hnext⟩
            · exact absurd hrest (hnot hsuffix)
            · cases hrest with
              | here hbrace => cases (skipBlanks_brace _ _).symm.trans hbrace
              | later hbrace hnextStep hrest =>
                cases (skipBlanks_brace _ _).symm.trans hbrace
                exact absurd hrest (hnot (hnext _ _ hnextStep))
          · have hextends := extends_step (fun hc ho => hopen ⟨hc, ho⟩) fun _ _ _ _ => hlater
            cases hinner : step s c rest with
            | ok x =>
              obtain ⟨s₁, rest₁⟩ := x
              cases (hextends.eq_ok hinner).symm.trans hstep
              have hlt := length_lt_of_step hskip hinner
              refine .later hskip hinner (ih hrest (by omega) ?_)
              rw [readAll, readFrom, hskip] at herror
              simp only [hinner] at herror
              exact herror
            | error e' => exact absurd hrest (hnot (hextends.crosses_of_error hlater hinner hstep))
    · have hnil := hcomment.skipBlanks_eq_nil hlater
      cases h with
      | here hskip' => cases hnil.symm.trans hskip'
      | later hskip' => cases hnil.symm.trans hskip'

end Unopened

/-! ## Texts in a group -/

/-- The names that a text gives to groups. -/
def namesOf (text : Text) : List Text :=
  match readFrom (text.length + 1) {} text with
  | .ok s => s.names
  | .error _ => []

/-- A closing parenthesis behind a text that writes a pattern is not lost in a comment. -/
def KeepsParenthesis (text : Text) : Prop :=
  syntaxOf (text ++ [')']) = .error .unopenedGroup

theorem syntaxOf_of_unopened (h : Unopened {} text) : syntaxOf text = .error .unopenedGroup := by
  rw [syntaxOf, readAll, h.readFrom_eq (Nat.lt_succ_self _)]
  rfl

theorem Reaches.trans {k l : Nat} {e e' : State} {u u' : Text} (h : Reaches k s text e u) (h' : Reaches l e u e' u') :
    Reaches (k + l) s text e' u' := by
  induction h with
  | refl s text => rwa [Nat.zero_add]
  | step hskip hstep _ ih =>
    rw [Nat.succ_add]
    exact .step hskip hstep (ih h')

/-- Where only blanks are left the pattern is finished. -/
theorem Reaches.syntaxOf_eq {k : Nat} {e : State} {u : Text} (h : Reaches k {} text e u)
    (hu : skipBlanks e.flags u = []) : syntaxOf text = e.finish := by
  obtain ⟨n, hn⟩ := Nat.exists_eq_add_of_le (Nat.le_trans (Nat.le_add_right k _) h.le_length)
  rw [syntaxOf, readAll, hn, Nat.add_assoc, h.readFrom_eq, readFrom, hu]
  rfl

/-- A text that writes a pattern comes to a state with this pattern, in which no group and no comment is open. -/
theorem exists_reaches_of_syntaxOf {p : Pattern} {d : Nat} (h : syntaxOf text = .ok (p, d))
    (hkeeps : KeepsParenthesis text) : ∃ k e u, Reaches k {} text e u ∧ e.outer = [] ∧ e.body = (p, d) ∧
      e.names = namesOf text ∧ ¬ OpenComment e.flags u ∧ skipBlanks e.flags u = [] := by
  obtain ⟨e, hread, hfinish⟩ := bind_eq_ok.1 h
  obtain ⟨k, u, hreaches, hu⟩ := exists_reaches hread
  have houter : e.outer = [] := by
    rw [finish] at hfinish
    split at hfinish
    · exact List.isEmpty_iff.1 ‹_›
    · cases hfinish
  have hbody : e.body = (p, d) := by
    rw [finish, houter] at hfinish
    exact Except.ok.inj hfinish
  refine ⟨k, e, u, hreaches, houter, hbody, ?_, fun hcomment => ?_, hu⟩
  · rw [namesOf, hread]
  · -- The parenthesis would be lost in the comment.
    have happend : Reaches k ({} : State) (text ++ [')']) e (u ++ [')']) := by
      have happend : Reaches k (({} : State).within [] []) (text ++ [')']) (e.within [] []) (u ++ [')']) :=
        hreaches.append (fun _ => List.not_mem_nil) fun _ _ => List.not_mem_nil
      rwa [within_nil, within_nil] at happend
    have hlost := happend.syntaxOf_eq (hcomment.skipBlanks_eq_nil List.not_mem_nil)
    rw [hkeeps, finish, houter] at hlost
    cases hlost

/-- A text that writes a pattern writes the same pattern in a group, where no name is given that stands before. -/
theorem reaches_of_syntaxOf {p : Pattern} {d : Nat} (h : syntaxOf text = .ok (p, d)) (hkeeps : KeepsParenthesis text)
    (g : OpenGroup) (groups : List OpenGroup) {names : List Text} (hnames : ∀ name ∈ namesOf text, name ∉ names)
    (later : Text) : ∃ k, Reaches k (({} : State).within (g :: groups) names) (text ++ ')' :: later)
      { flags := g.flags
        alternatives := g.alternatives
        items := .pattern (if g.kept then .group p else p) (d + 1) :: g.items
        outer := groups
        names := namesOf text ++ names } later := by
  obtain ⟨k, e, u, hreaches, houter, hbody, hgiven, hcomment, hu⟩ := exists_reaches_of_syntaxOf h hkeeps
  rw [← hgiven] at hnames ⊢
  have happend : Reaches k (({} : State).within (g :: groups) names) (text ++ ')' :: later)
      (e.within (g :: groups) names) (u ++ ')' :: later) := hreaches.append (fun h => absurd h hcomment) hnames
  have hparenthesis : skipBlanks (e.within (g :: groups) names).flags (u ++ ')' :: later) = ')' :: later := by
    rcases skipBlanks_append e.flags u with h | h
    · rw [within_flags, h, hu]
      rfl
    · exact absurd h.2 hcomment
  refine ⟨k + 1, happend.trans (.step hparenthesis ?_ (.refl _ _))⟩
  have houter' : (e.within (g :: groups) names).outer = g :: groups := by rw [within, houter]; rfl
  have hbody' : (e.within (g :: groups) names).body = (p, d) := hbody
  show leave _ _ = _
  rw [leave, closeGroup, houter']
  dsimp only
  rw [hbody']
  rfl

end TextAnalysis.Pattern
