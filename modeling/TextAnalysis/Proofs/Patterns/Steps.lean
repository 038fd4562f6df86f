/-
# Expressions in front of a closing parenthesis

What stands between the expressions of a pattern, and each expression, is read without a look at a closing parenthesis
behind it. There are two exceptions. A comment that is still open may swallow the parenthesis, and a brace behind the
escape of a word boundary is taken for a repetition count if nothing but a parenthesis follows.
-/
import TextAnalysis.Proofs.Patterns.Classes

namespace TextAnalysis.Pattern

variable {α β : Type} {f : Flags} {text later bound : Text}

/-! ## Groups -/

theorem takes_readFlags {on : Bool} {seen : List Char} : Takes (readFlags f on seen) := by
  intro text x rest h
  induction text generalizing f on seen with
  | nil => cases h
  | cons c text ih =>
    have htext : rest <:+ text → rest <:+ c :: text ∧ rest.length < (c :: text).length :=
      fun h => ⟨h.trans (List.suffix_cons c text), Nat.lt_succ_of_le h.length_le⟩
    rw [readFlags] at h
    split at h
    · split at h <;> cases h
      exact htext (List.suffix_refl _)
    · split at h
      · split at h
        · cases h
        · split at h <;> cases h
          exact htext (List.suffix_refl _)
      · split at h
        · cases h
        · split at h
          · exact htext (ih h).1
          · split at h
            · exact htext (ih h).1
            · cases h

theorem reads_readFlags (f : Flags) (on : Bool) (seen : List Char) : Reads (readFlags f on seen) := by
  intro text
  refine ⟨fun x rest h => (takes_readFlags h).1, fun later => ?_⟩
  induction text generalizing f on seen with
  | nil => exact .of_error rfl fun x rest h => takes_readFlags.leaves h
  | cons c text ih =>
    rw [List.cons_append, readFlags, readFlags]
    split
    · split
      · exact .error _ _
      · exact .ok _ text
    · split
      · split
        · exact .error _ _
        · split
          · exact .error _ _
          · exact .ok _ text
      · split
        · exact .error _ _
        · split
          · exact ih _ _ _
          · split
            · exact ih _ _ _
            · exact .error _ _

theorem reads_readGroupName [CharSet.Tables] : Reads readGroupName := by
  refine .bind (Q := fun name rest => if isGroupName name then .ok (name, rest) else .error .badGroupName)
    (reads_takeUntil (by decide) .badGroupName) fun name => ?_
  split
  · exact .pure name
  · exact .fail _

namespace State

variable (s : State)

theorem reads_enterNamed [CharSet.Tables] : Reads s.enterNamed := by
  refine .bind (Q := fun name rest => if s.names.contains name then .error .badGroupName
    else .ok ({ s.openGroup s.flags true with names := name :: s.names }, rest)) reads_readGroupName fun name => ?_
  split
  · exact .fail _
  · exact .pure _

theorem reads_enterFlags : Reads s.enterFlags := by
  refine .bind (Q := fun x rest => if x.2 then .ok ({ s with flags := x.1, items := .flags :: s.items }, rest)
    else .ok (s.openGroup x.1 false, rest)) (reads_readFlags s.flags true []) fun x => ?_
  split
  · exact .pure _
  · exact .pure _

theorem looksAround_append (text later : Text) : looksAround (text ++ ')' :: later) = looksAround text := by
  cases text <;> simp [looksAround]

theorem takes_enterFlags : Takes s.enterFlags := by
  refine .bind (Q := fun x rest => if x.2 then .ok ({ s with flags := x.1, items := .flags :: s.items }, rest)
    else .ok (s.openGroup x.1 false, rest)) takes_readFlags fun x text s' rest h => ?_
  split at h <;> cases h <;> exact List.suffix_refl _

/-- A name in angle brackets, unless a sign of look-around follows. -/
theorem reads_enterAngle [CharSet.Tables] :
    Reads fun rest => if looksAround rest then .error .lookAround else s.enterNamed rest := by
  intro text
  constructor
  · intro x rest h
    split at h
    · cases h
    · exact s.reads_enterNamed.leaves h
  · intro later
    rw [looksAround_append]
    split
    · exact .error _ _
    · exact (s.reads_enterNamed text).goesOn later

theorem reads_enterSpecial [CharSet.Tables] : Reads s.enterSpecial := by
  refine .of_cons rfl fun c => ?_
  by_cases hlook : c = '=' ∨ c = '!'
  · refine (Reads.fail .lookAround).congr fun rest => ?_
    simp [enterSpecial, looksAround, hlook]
  · by_cases hangle : c = '<'
    · refine s.reads_enterAngle.congr fun rest => ?_
      simp [enterSpecial, looksAround, hangle]
    · have hflags := s.takes_enterFlags.reads_cons s.reads_enterFlags c
      by_cases hnamed : c = 'P'
      · refine .of_head '<' (by decide) s.reads_enterNamed hflags (fun rest => ?_) fun rest hrest => ?_
        · simp [enterSpecial, looksAround, hnamed]
        · simp [enterSpecial, looksAround, hnamed, hrest]
      · refine hflags.congr fun rest => ?_
        simp [enterSpecial, looksAround, hlook, hangle, hnamed]

theorem enter_leaves [CharSet.Tables] {s' : State} {rest : Text} (h : s.enter text = .ok (s', rest)) :
    rest <:+ text := by
  unfold enter at h
  split at h
  · rename_i u hskip
    exact ((s.reads_enterSpecial.leaves h).trans (List.suffix_cons _ _)).trans (hskip ▸ skipBlanks_suffix s.flags text)
  · cases h
    exact List.suffix_refl _

/-- A group of no special kind is opened where only blanks follow. -/
theorem enter_of_nil [CharSet.Tables] (h : skipBlanks s.flags text = []) :
    s.enter text = .ok (s.openGroup s.flags true, text) := by
  unfold enter
  rw [h]

/-- Where a comment is open behind the opening parenthesis, no new line must end it. -/
theorem extends_enter [CharSet.Tables] (hlater : OpenComment s.flags text → '\n' ∉ later) :
    Extends later later (s.enter text) (s.enter (text ++ ')' :: later)) := by
  -- A group without a question mark opens whatever follows.
  have hplain : ∀ text u : Text, skipBlanks s.flags text = u → u.head? ≠ some '?' →
      s.enter text = .ok (s.openGroup s.flags true, text) := by
    intro text u hu hhead
    unfold enter
    split
    · rename_i hskip
      rw [← hu, hskip] at hhead
      exact absurd rfl hhead
    · rfl
  rcases skipBlanks_append s.flags text with happend | ⟨hskip, hcomment⟩
  · cases hskip : skipBlanks s.flags text with
    | nil =>
      rw [hplain text [] hskip nofun, hplain _ (')' :: later) (by rw [happend, hskip]; rfl) (by simp)]
      exact .ok _ text
    | cons c u =>
      by_cases hc : c = '?'
      · have hwhole := happend later
        rw [hskip, hc, List.cons_append] at hwhole
        rw [hc] at hskip
        unfold enter
        rw [hwhole, hskip]
        exact (s.reads_enterSpecial u).goesOn later
      · rw [hplain text _ hskip (by simpa using hc), hplain _ _ (happend later) (by rw [hskip]; simpa using hc)]
        exact .ok _ text
  · rw [hplain text [] hskip nofun, hplain _ [] (hcomment.skipBlanks_eq_nil (hlater hcomment)) nofun]
    exact .ok _ text

end State

/-! ## Repetitions -/

theorem Reads.dropWhile {P : Text → Except PatternError (α × Text)} {p : Char → Bool} (hp : p ')' = false)
    (hP : Reads P) : Reads fun text => P (text.dropWhile p) := fun text => {
  leaves := fun _ _ h => (hP.leaves h).trans (List.dropWhile_suffix p)
  goesOn := fun later => by
    rw [dropWhile_close hp]
    exact (hP _).goesOn later }

/-- Behind a number a reader that needs a character gives the same for a text that goes on. -/
theorem Reads.number {Q : Nat → Text → Except PatternError (β × Text)} (f : Flags) (hQ : ∀ n, Reads (Q n))
    (hnil : ∀ n, ∃ e, Q n [] = .error e) : Reads fun text => readNumber f text >>= fun x => Q x.1 x.2 := by
  have hdigits := Reads.spaced (Q := fun digits rest => (Text.toNat? digits).elim (.error .badCount) fun n =>
    if n < Nat.pow 2 32 then Q n (rest.dropWhile Text.isBlank) else .error .badCount) f Char.isDigit
    (fun digits => ?_) fun digits => ?_
  · refine (hdigits.dropWhile isBlank_close).congr fun text => ?_
    unfold readNumber
    generalize takeSpacedWhile f Char.isDigit false (text.dropWhile Text.isBlank) = x
    obtain ⟨digits, rest⟩ := x
    dsimp only
    cases Text.toNat? digits with
    | none => rfl
    | some n =>
      dsimp only [Option.elim_some]
      by_cases hn : n < Nat.pow 2 32
      · rw [if_pos hn, if_pos hn, ok_bind]
      · rw [if_neg hn, if_neg hn]
        rfl
  · cases Text.toNat? digits with
    | none => exact .fail _
    | some n =>
      simp only [Option.elim_some]
      split
      · exact (hQ _).dropWhile isBlank_close
      · exact .fail _
  · cases Text.toNat? digits with
    | none => exact ⟨_, rfl⟩
    | some n =>
      rw [Option.elim_some]
      split
      · exact hnil _
      · exact ⟨_, rfl⟩

theorem reads_readMost (f : Flags) (least : Nat) : Reads (readMost f least) := by
  have hmost : Reads fun text => readNumber f text >>= fun x =>
      if least ≤ x.1 then closeBrace .badCount (least, some x.1) (skipBlanks f x.2) else .error .badCount := by
    refine .number f (Q := fun most rest => if least ≤ most
      then closeBrace .badCount (least, some most) (skipBlanks f rest) else .error .badCount) (fun most => ?_)
      fun most => ?_
    · split
      · exact .afterBlanks f (reads_closeBrace _ _) rfl
      · exact .fail _
    · refine ⟨.badCount, ?_⟩
      rw [skipBlanks_nil]
      exact ite_self _
  refine .of_head '\x7d' (by decide) (.pure (least, none)) hmost (fun rest => rfl) fun text h => ?_
  cases text with
  | nil => rfl
  | cons c text => rw [readMost, if_neg fun hc : c = '\x7d' => h (hc ▸ rfl)]

theorem reads_readBounds (f : Flags) (least : Nat) : Reads (readBounds f least) := by
  refine .of_head ',' (by decide) (.afterBlanks f (reads_readMost f least) rfl)
    (reads_closeBrace .badCount (least, some least)) (fun rest => rfl) fun text h => ?_
  cases text with
  | nil => rfl
  | cons c text => rw [readBounds, if_neg fun hc : c = ',' => h (hc ▸ rfl)]

theorem reads_readCount (f : Flags) : Reads (readCount f) := by
  have hbounds : Reads fun text => readNumber f text >>= fun x => readBounds f x.1 (skipBlanks f x.2) :=
    .number f (Q := fun least rest => readBounds f least (skipBlanks f rest))
      (fun least => .afterBlanks f (reads_readBounds f least) rfl) fun least => ⟨_, by rw [skipBlanks_nil]; rfl⟩
  exact .afterBlanks f hbounds rfl

theorem readCount_of_nil (h : skipBlanks f text = []) : readCount f text = .error .badCount := by
  unfold readCount
  rw [h]
  rfl

theorem takeLazy_append (text later : Text) : takeLazy (text ++ ')' :: later) =
    ((takeLazy text).1, (takeLazy text).2 ++ ')' :: later) :=
  takeSign_append (by decide) text later

theorem takeLazyAfterBlanks_append (hlater : OpenComment f text → '\n' ∉ later) :
    takeLazyAfterBlanks f (text ++ ')' :: later) =
      ((takeLazyAfterBlanks f text).1, (takeLazyAfterBlanks f text).2 ++ ')' :: later) := by
  unfold takeLazyAfterBlanks
  rcases skipBlanks_append f text with happend | ⟨hskip, hcomment⟩
  · rw [happend, takeLazy_append]
    dsimp only
    split <;> rfl
  · rw [hskip, hcomment.skipBlanks_eq_nil (hlater hcomment)]
    rfl

theorem takeLazyAfterBlanks_suffix (f : Flags) (text : Text) : (takeLazyAfterBlanks f text).2 <:+ text := by
  unfold takeLazyAfterBlanks
  dsimp only
  split
  · exact (takeSign_suffix '?' _).trans (skipBlanks_suffix f text)
  · exact List.suffix_refl _

/-- Where only blanks follow, nothing makes a repetition lazy. -/
theorem takeLazyAfterBlanks_of_nil (h : skipBlanks f text = []) : takeLazyAfterBlanks f text = (false, text) := by
  unfold takeLazyAfterBlanks
  rw [h]
  rfl

theorem OpenComment.skipBlanks_self (h : OpenComment f text) : skipBlanks f text = [] := by
  have hnil := h []
  rwa [List.append_nil] at hnil

/-! ## Expressions -/

namespace State

variable {s : State}

theorem repeatLast_flags {least : Nat} {most : Option Nat} {lazy : Bool} {s' : State}
    (h : s.repeatLast least most lazy = .ok s') : s'.flags = s.flags := by
  unfold repeatLast at h
  split at h
  · cases h
    rfl
  · cases h

/-- Whether there is something to repeat does not depend on how it is repeated. -/
theorem repeatLast_error {least least' : Nat} {most most' : Option Nat} {lazy lazy' : Bool} {e : PatternError}
    (h : s.repeatLast least most lazy = .error e) : s.repeatLast least' most' lazy' = .error e := by
  unfold repeatLast at h ⊢
  split at h
  · cases h
  · exact h

theorem reads_repeatSimply (least : Nat) (most : Option Nat) : Reads (s.repeatSimply least most) := by
  intro text
  constructor
  · intro s' rest h
    obtain ⟨s', -, heq⟩ := map_eq_ok.1 h
    cases heq
    exact takeSign_suffix '?' text
  · intro later
    unfold repeatSimply
    rw [takeLazy_append]
    exact extends_map _ id _ later

theorem repeatCounted_eq (s : State) (text : Text) : s.repeatCounted text = readCount s.flags text >>= fun x =>
    (s.repeatLast x.1.1 x.1.2 (takeLazyAfterBlanks s.flags x.2).1).map fun s' =>
      (s', (takeLazyAfterBlanks s.flags x.2).2) :=
  rfl

theorem repeatCounted_leaves {s' : State} {rest : Text} (h : s.repeatCounted text = .ok (s', rest)) :
    rest <:+ text := by
  obtain ⟨⟨⟨least, most⟩, mid⟩, hcount, h⟩ := bind_eq_ok.1 h
  obtain ⟨s', -, heq⟩ := map_eq_ok.1 h
  cases heq
  exact (takeLazyAfterBlanks_suffix s.flags mid).trans ((reads_readCount s.flags).leaves hcount)

theorem extends_repeatCounted
    (hlater : ∀ s' rest, s.repeatCounted text = .ok (s', rest) → OpenComment s'.flags rest → '\n' ∉ later) :
    Extends later later (s.repeatCounted text) (s.repeatCounted (text ++ ')' :: later)) := by
  refine ((reads_readCount s.flags text).goesOn later).bind
    (Q := fun x rest => (s.repeatLast x.1 x.2 (takeLazyAfterBlanks s.flags rest).1).map fun s' =>
      (s', (takeLazyAfterBlanks s.flags rest).2)) ?_ ?_
  · intro x text s' rest h
    obtain ⟨s', -, heq⟩ := map_eq_ok.1 h
    cases heq
    exact takeLazyAfterBlanks_suffix s.flags text
  · intro x rest hcount
    cases hrepeat : s.repeatLast x.1 x.2 (takeLazyAfterBlanks s.flags rest).1 with
    | error e =>
      rw [repeatLast_error hrepeat]
      exact .error e e
    | ok s' =>
      have hcomment : OpenComment s.flags rest → '\n' ∉ later := by
        intro hcomment
        have hlazy := takeLazyAfterBlanks_of_nil hcomment.skipBlanks_self
        refine hlater s' rest ?_ (repeatLast_flags hrepeat ▸ hcomment)
        rw [repeatCounted_eq, hcount, ok_bind, hrepeat, hlazy]
        rfl
      rw [takeLazyAfterBlanks_append hcomment, hrepeat]
      exact .ok s' _

theorem reads_readDot : Reads s.readDot := by
  unfold readDot
  split
  · exact .fail _
  · exact .pure _

theorem reads_leave : Reads s.leave := by
  intro text
  constructor
  · intro s' rest h
    obtain ⟨s', -, heq⟩ := map_eq_ok.1 h
    cases heq
    exact List.suffix_refl _
  · exact fun later => extends_map s.closeGroup id text later

theorem reads_readSet [CharSet.Tables] : Reads s.readSet := by
  intro text
  constructor
  · intro s' rest h
    obtain ⟨⟨opened, mid⟩, hopen, h⟩ := bind_eq_ok.1 h
    obtain ⟨⟨⟨set, depth⟩, rest⟩, hclass, heq⟩ := map_eq_ok.1 h
    cases heq
    exact ((takes_readClass hclass).1.trans (openClass_leaves hopen)).trans (skipBlanks_suffix s.flags text)
  · intro later
    have hopen := extends_openClass (f := s.flags) text later
    unfold readSet
    -- The class is opened alike in the longer text, or the opening goes beyond the parenthesis.
    generalize openClass s.flags (skipBlanks s.flags text) = x,
      openClass s.flags (skipBlanks s.flags (text ++ ')' :: later)) = y at hopen
    cases hopen with
    | ok opened rest =>
      exact (extends_readClass opened [] rest later (Nat.lt_succ_self _) (Nat.lt_succ_self _)).map
        fun x => s.push (.one x.1) x.2
    | error e e' => exact .error e e'
    | newLine e y h => exact .newLine e _ h
    | crosses e opened hmid =>
      refine .of_error rfl fun s' rest h => ?_
      obtain ⟨⟨⟨set, depth⟩, rest⟩, hclass, heq⟩ := map_eq_ok.1 h
      cases heq
      have htakes := takes_readClass hclass
      have hlength := hmid.length_le
      exact suffix_of_length_lt (htakes.1.trans hmid) (by omega)

@[simp] theorem pushEscaped_flags [CharSet.Tables] (s : State) (e : Escaped) : (s.pushEscaped e).flags = s.flags := by
  cases e <;> rfl

theorem readEscaped_leaves [CharSet.Tables] {s' : State} {rest : Text} (h : s.readEscaped text = .ok (s', rest)) :
    rest <:+ text := by
  obtain ⟨⟨e, rest⟩, hescape, heq⟩ := map_eq_ok.1 h
  cases heq
  exact readEscape_leaves hescape

theorem extends_readEscaped [CharSet.Tables] (h : ¬ OpenEscape s.flags text) :
    Extends later later (s.readEscaped text) (s.readEscaped (text ++ ')' :: later)) :=
  ((readsAt_readEscape h).goesOn later).map s.pushEscaped

end State

theorem step_leaves [CharSet.Tables] {s s' : State} {c : Char} {rest : Text} (h : step s c text = .ok (s', rest)) :
    rest <:+ text := by
  unfold step at h
  split at h
  · exact s.enter_leaves h
  · exact State.reads_leave.leaves h
  · exact (Reads.pure _).leaves h
  · exact State.reads_readSet.leaves h
  · exact (State.reads_repeatSimply _ _).leaves h
  · exact (State.reads_repeatSimply _ _).leaves h
  · exact (State.reads_repeatSimply _ _).leaves h
  · exact State.repeatCounted_leaves h
  · exact State.reads_readDot.leaves h
  · exact (Reads.pure _).leaves h
  · exact (Reads.pure _).leaves h
  · exact State.readEscaped_leaves h
  · exact (Reads.pure _).leaves h

/-- One step does not look at a closing parenthesis behind what it takes, unless it stops within an escape. -/
theorem extends_step [CharSet.Tables] {s : State} {c : Char} (hescape : c = '\\' → ¬ OpenEscape s.flags text)
    (hlater : ∀ s' rest, step s c text = .ok (s', rest) → OpenComment s'.flags rest → '\n' ∉ later) :
    Extends later later (step s c text) (step s c (text ++ ')' :: later)) := by
  revert hlater
  unfold step
  split <;> intro hlater
  · exact s.extends_enter fun hcomment => hlater _ _ (s.enter_of_nil hcomment.skipBlanks_self) hcomment
  · exact (State.reads_leave text).goesOn later
  · exact (Reads.pure _ text).goesOn later
  · exact (State.reads_readSet text).goesOn later
  · exact (State.reads_repeatSimply _ _ text).goesOn later
  · exact (State.reads_repeatSimply _ _ text).goesOn later
  · exact (State.reads_repeatSimply _ _ text).goesOn later
  · exact State.extends_repeatCounted hlater
  · exact (State.reads_readDot text).goesOn later
  · exact (Reads.pure _ text).goesOn later
  · exact (Reads.pure _ text).goesOn later
  · exact State.extends_readEscaped (hescape rfl)
  · exact (Reads.pure _ text).goesOn later

/-- A step that stops within an escape fails, and with a closing parenthesis behind it the next one fails if it does not
go beyond the parenthesis. -/
theorem step_openEscape [CharSet.Tables] {s : State} (h : OpenEscape s.flags text) (hlater : '\n' ∉ later) :
    (∃ e, step s '\\' text = .error e) ∧
      ∀ s' rest, step s '\\' (text ++ ')' :: later) = .ok (s', rest) → rest <:+ later ∨ s'.outer = s.outer ∧
        ∃ inner, rest = '\x7b' :: inner ∧ ∀ s'' rest', step s' '\x7b' inner = .ok (s'', rest') → rest' <:+ later := by
  obtain ⟨halone, hwhole⟩ := readEscape_open h later
  refine ⟨⟨.badEscape, ?_⟩, fun s' rest hstep => ?_⟩
  · show s.readEscaped text = _
    rw [State.readEscaped, halone]
    rfl
  · obtain ⟨⟨e, rest⟩, hread, heq⟩ := map_eq_ok.1 hstep
    cases heq
    refine (hwhole e rest hread).imp_right ?_
    rintro ⟨rfl, _, -, ⟨inner, rfl, hskip⟩, rfl⟩
    refine ⟨rfl, inner ++ ')' :: later, rfl, fun s'' rest' hcount => ?_⟩
    have hnone : (s.pushEscaped (.holds (.wordBoundary (letterSet s.flags 'w')))).repeatCounted inner =
        .error .badCount := by
      rw [State.repeatCounted_eq, State.pushEscaped_flags, readCount_of_nil hskip]
      rfl
    exact (State.extends_repeatCounted fun _ _ hsome => nomatch hnone.symm.trans hsome).crosses_of_error hlater hnone
      hcount

end TextAnalysis.Pattern
