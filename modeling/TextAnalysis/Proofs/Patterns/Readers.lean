/-
# Readers of patterns

A reader takes something from the front of a text and leaves the rest. The readers of patterns do not look at a closing
parenthesis behind what they take: with the parenthesis and more text behind it they take the same. Where they fail on
the text alone, they fail with the parenthesis too, or they take it for something else than the end of a group.
-/
import Mathlib.Data.List.Infix
import TextAnalysis.Pattern.Reader
import TextAnalysis.Proofs.Outcomes

namespace TextAnalysis.Pattern

/-! ## Readers -/

/-- What a reader gives for a text, and what it gives if a closing parenthesis and more text follow: the same, and what
follows is left over; or an error both times; or something for the longer text only, with an end of `bound` left over.
Nothing is said about the longer text if a reader fails on the shorter one and a new line could end a comment there. -/
inductive Extends {α : Type} (bound later : Text) :
    Except PatternError (α × Text) → Except PatternError (α × Text) → Prop
  | ok (a : α) (rest : Text) : Extends bound later (.ok (a, rest)) (.ok (a, rest ++ ')' :: later))
  | error (e e' : PatternError) : Extends bound later (.error e) (.error e')
  | crosses (e : PatternError) (a : α) {rest : Text} (h : rest <:+ bound) :
      Extends bound later (.error e) (.ok (a, rest))
  | newLine (e : PatternError) (whole : Except PatternError (α × Text)) (h : '\n' ∈ later) :
    Extends bound later (.error e) whole

/-- A reader leaves an end of a text, and does not look at a closing parenthesis behind it. -/
structure ReadsAt {α : Type} (P : Text → Except PatternError (α × Text)) (text : Text) : Prop where
  leaves : ∀ a rest, P text = .ok (a, rest) → rest <:+ text
  goesOn : ∀ later, Extends later later (P text) (P (text ++ ')' :: later))

/-- A reader leaves an end of every text, and does not look at a closing parenthesis behind it. -/
def Reads {α : Type} (P : Text → Except PatternError (α × Text)) : Prop :=
  ∀ text, ReadsAt P text

variable {α β : Type} {P P' : Text → Except PatternError (α × Text)} {Q : α → Text → Except PatternError (β × Text)}
  {f : Flags} {text later bound : Text}

namespace Extends

variable {alone whole : Except PatternError (α × Text)}

theorem of_error {e : PatternError} (halone : alone = .error e) (h : ∀ a rest, whole = .ok (a, rest) → rest <:+ bound) :
    Extends bound later alone whole := by
  subst halone
  rcases whole with e' | ⟨a, rest⟩
  · exact .error e e'
  · exact .crosses e a (h a rest rfl)

theorem eq_ok (h : Extends bound later alone whole) {a : α} {rest : Text} (halone : alone = .ok (a, rest)) :
    whole = .ok (a, rest ++ ')' :: later) := by
  subst halone
  cases h
  rfl

theorem crosses_of_error (h : Extends bound later alone whole) (hlater : '\n' ∉ later) {e : PatternError}
    (halone : alone = .error e) {a : α} {rest : Text} (hwhole : whole = .ok (a, rest)) : rest <:+ bound := by
  subst halone hwhole
  cases h with
  | crosses e a hrest => exact hrest
  | newLine e x h => exact absurd h hlater

theorem bind (h : Extends bound later alone whole) (hleaves : ∀ a text b rest, Q a text = .ok (b, rest) → rest <:+ text)
    (hQ : ∀ a rest, alone = .ok (a, rest) → Extends bound later (Q a rest) (Q a (rest ++ ')' :: later))) :
    Extends bound later (alone >>= fun x => Q x.1 x.2) (whole >>= fun x => Q x.1 x.2) := by
  cases h with
  | ok a rest => exact hQ a rest rfl
  | error e e' => exact .error e e'
  | crosses e a hrest => exact .of_error rfl fun b rest h => (hleaves a _ b rest h).trans hrest
  | newLine e _ h => exact .newLine e _ h

theorem map (h : Extends bound later alone whole) (g : α → β) :
    Extends bound later (alone.map fun x => (g x.1, x.2)) (whole.map fun x => (g x.1, x.2)) := by
  cases h with
  | ok a rest => exact .ok (g a) rest
  | error e e' => exact .error e e'
  | crosses e a hrest => exact .crosses e (g a) hrest
  | newLine e _ h => exact .newLine e _ h

/-- More may be left over. -/
theorem mono {bound' : Text} (h : Extends bound later alone whole) (hbound : bound <:+ bound') :
    Extends bound' later alone whole := by
  cases h with
  | ok a rest => exact .ok a rest
  | error e e' => exact .error e e'
  | crosses e a hrest => exact .crosses e a (hrest.trans hbound)
  | newLine e _ h => exact .newLine e _ h

end Extends

namespace ReadsAt

theorem nil {e : PatternError} (hnil : P [] = .error e)
    (hleaves : ∀ later a rest, P (')' :: later) = .ok (a, rest) → rest <:+ later) : ReadsAt P [] where
  leaves := by
    intro a rest h
    cases hnil.symm.trans h
  goesOn later := .of_error hnil (hleaves later)

theorem cons {c : Char} (h : ReadsAt (fun rest => P (c :: rest)) text) : ReadsAt P (c :: text) where
  leaves a rest hrest := (h.leaves a rest hrest).trans (List.suffix_cons c text)
  goesOn := h.goesOn

end ReadsAt

namespace Reads

theorem leaves (h : Reads P) {a : α} {rest : Text} (hP : P text = .ok (a, rest)) : rest <:+ text :=
  (h text).leaves a rest hP

theorem congr (h : Reads P) (heq : ∀ text, P' text = P text) : Reads P' :=
  funext heq ▸ h

theorem pure (a : α) : Reads fun text => .ok (a, text) := fun text => {
  leaves := by
    rintro _ _ ⟨⟩
    exact List.suffix_refl text
  goesOn := fun _ => .ok a text }

theorem fail (e : PatternError) : Reads fun _ => (.error e : Except PatternError (α × Text)) := fun _ => {
  leaves := fun _ _ h => nomatch h
  goesOn := fun _ => .error e e }

/-- One reader after the other. -/
theorem bind (hP : Reads P) (hQ : ∀ a, Reads (Q a)) : Reads fun text => P text >>= fun x => Q x.1 x.2 := by
  intro text
  constructor
  · intro b rest h
    obtain ⟨⟨a, mid⟩, hmid, hrest⟩ := bind_eq_ok.1 h
    exact ((hQ a).leaves hrest).trans (hP.leaves hmid)
  · exact fun later => ((hP text).goesOn later).bind (fun a _ _ _ h => (hQ a).leaves h)
      fun a rest _ => (hQ a rest).goesOn later

theorem map (hP : Reads P) (g : α → β) : Reads fun text => (P text).map fun x => (g x.1, x.2) := by
  intro text
  constructor
  · intro b rest h
    obtain ⟨⟨a, mid⟩, hmid, heq⟩ := map_eq_ok.1 h
    cases heq
    exact hP.leaves hmid
  · exact fun later => ((hP text).goesOn later).map g

/-- A reader that needs a character and reads on behind it. -/
theorem of_cons {e : PatternError} (hnil : P [] = .error e) (hcons : ∀ c, Reads fun rest => P (c :: rest)) : Reads P
  | [] => .nil hnil fun _ _ _ h => (hcons ')').leaves h
  | c :: text => .cons (hcons c text)

/-- A reader that looks whether the text starts with a character. -/
theorem of_head {A : Text → Except PatternError (α × Text)} (c : Char) (hc : c ≠ ')') (hA : Reads A) (hP' : Reads P')
    (hhead : ∀ rest, P (c :: rest) = A rest) (hother : ∀ text, text.head? ≠ some c → P text = P' text) : Reads P := by
  intro text
  by_cases h : text.head? = some c
  · obtain ⟨rest, rfl⟩ := List.head?_eq_some_iff.1 h
    constructor
    · intro a rest' hrest
      rw [hhead] at hrest
      exact (hA.leaves hrest).trans (List.suffix_cons c rest)
    · intro later
      rw [List.cons_append, hhead, hhead]
      exact (hA rest).goesOn later
  · constructor
    · intro a rest hrest
      rw [hother text h] at hrest
      exact hP'.leaves hrest
    · intro later
      rw [hother text h, hother]
      · exact (hP' text).goesOn later
      · cases text with
        | nil => exact fun h => hc (Option.some.inj h).symm
        | cons d text => exact h

end Reads

/-- A reader leaves less than it has read. -/
def Takes (P : Text → Except PatternError (α × Text)) : Prop :=
  ∀ ⦃text a rest⦄, P text = .ok (a, rest) → rest <:+ text ∧ rest.length < text.length

theorem suffix_of_length_lt {c : Char} {rest : Text} (h : rest <:+ c :: text)
    (hlength : rest.length < (c :: text).length) :
    rest <:+ text := by
  rcases List.suffix_cons_iff.1 h with rfl | h
  · exact absurd hlength (Nat.lt_irrefl _)
  · exact h

namespace Takes

theorem of_cons (hnil : ∀ x, P [] ≠ .ok x) (hcons : ∀ c text a rest, P (c :: text) = .ok (a, rest) → rest <:+ text) :
    Takes P := by
  intro text a rest h
  cases text with
  | nil => exact absurd h (hnil _)
  | cons c text =>
    have hsuffix := hcons c text a rest h
    exact ⟨hsuffix.trans (List.suffix_cons c text), Nat.lt_succ_of_le hsuffix.length_le⟩

theorem leaves (h : Takes P) {c : Char} {a : α} {rest : Text} (hP : P (c :: text) = .ok (a, rest)) : rest <:+ text :=
  suffix_of_length_lt (h hP).1 (h hP).2

theorem bind (hP : Takes P) (hQ : ∀ a text b rest, Q a text = .ok (b, rest) → rest <:+ text) :
    Takes fun text => P text >>= fun x => Q x.1 x.2 := by
  intro text b rest h
  obtain ⟨⟨a, mid⟩, hmid, hrest⟩ := bind_eq_ok.1 h
  have hsuffix := hQ a mid b rest hrest
  exact ⟨hsuffix.trans (hP hmid).1, Nat.lt_of_le_of_lt hsuffix.length_le (hP hmid).2⟩

/-- What reads on behind a character. -/
theorem reads_cons (h : Takes P) (hP : Reads P) (c : Char) : Reads fun rest => P (c :: rest) := fun text => {
  leaves := fun _ _ hrest => h.leaves hrest
  goesOn := fun later => (hP (c :: text)).goesOn later }

end Takes

/-! ## Blanks and comments -/

/-- A character is skipped, or the text starts with it. -/
theorem skipComments_cons (inComment : Bool) (c : Char) :
    (∃ inComment', ∀ rest, skipComments inComment (c :: rest) = skipComments inComment' rest) ∨
      ∀ rest, skipComments inComment (c :: rest) = c :: rest := by
  simp only [skipComments]
  split
  · exact .inl ⟨_, fun rest => rfl⟩
  · split
    · exact .inl ⟨_, fun rest => rfl⟩
    · split
      · exact .inl ⟨_, fun rest => rfl⟩
      · exact .inr fun rest => rfl

theorem skipComments_suffix (inComment : Bool) (text : Text) : skipComments inComment text <:+ text := by
  induction text generalizing inComment with
  | nil => exact List.suffix_refl []
  | cons c rest ih =>
    rcases skipComments_cons inComment c with ⟨inComment', h⟩ | h
    · rw [h]
      exact (ih inComment').trans (List.suffix_cons c rest)
    · rw [h]

/-- What comes behind a text is skipped only if all of the text is. -/
theorem skipComments_append (inComment : Bool) (text : Text) :
    (∀ tail, skipComments inComment (text ++ tail) = skipComments inComment text ++ tail) ∨
      skipComments inComment text = [] ∧
        ∃ inComment', ∀ tail, skipComments inComment (text ++ tail) = skipComments inComment' tail := by
  induction text generalizing inComment with
  | nil => exact .inr ⟨rfl, inComment, fun tail => rfl⟩
  | cons c rest ih =>
    rcases skipComments_cons inComment c with ⟨inComment', h⟩ | h
    · simp only [List.cons_append, h]
      exact ih inComment'
    · simp only [List.cons_append, h]
      exact .inl fun tail => trivial

theorem skipBlanks_suffix (f : Flags) (text : Text) : skipBlanks f text <:+ text := by
  unfold skipBlanks
  split
  · exact skipComments_suffix false text
  · exact List.suffix_refl text

theorem isBlank_close : Text.isBlank ')' = false := by
  decide +kernel

/-- An open comment goes on to the end of a text without new lines. -/
theorem skipComments_of_notMem (h : '\n' ∉ text) : skipComments true text = [] := by
  induction text with
  | nil => rfl
  | cons c text ih =>
    have hc : (c != '\n') = true := bne_iff_ne.2 fun hc => h (hc ▸ List.mem_cons_self ..)
    rw [skipComments, if_pos rfl, hc]
    exact ih fun hmem => h (List.mem_cons_of_mem c hmem)

theorem skipComments_close (rest : Text) : skipComments false (')' :: rest) = ')' :: rest := by
  simp [skipComments, isBlank_close]

theorem skipBlanks_brace (f : Flags) (rest : Text) : skipBlanks f ('\x7b' :: rest) = '\x7b' :: rest := by
  have hblank : Text.isBlank '\x7b' = false := by decide +kernel
  unfold skipBlanks
  split
  · simp [skipComments, hblank]
  · rfl

/-- A comment is still open at the end of a text. -/
def OpenComment (f : Flags) (text : Text) : Prop :=
  ∀ tail, skipBlanks f (text ++ tail) = skipComments true tail

/-- A closing parenthesis behind a text is skipped only if a comment is open there. -/
theorem skipBlanks_append (f : Flags) (text : Text) :
    (∀ later, skipBlanks f (text ++ ')' :: later) = skipBlanks f text ++ ')' :: later) ∨
      skipBlanks f text = [] ∧ OpenComment f text := by
  unfold OpenComment skipBlanks
  split
  · rcases skipComments_append false text with h | ⟨hnil, inComment, h⟩
    · exact .inl fun later => h _
    · cases inComment with
      | false =>
        refine .inl fun later => ?_
        rw [h, hnil, skipComments_close]
        rfl
      | true => exact .inr ⟨hnil, h⟩
  · exact .inl fun later => rfl

theorem OpenComment.skipBlanks_suffix (h : OpenComment f text) (later : Text) :
    skipBlanks f (text ++ ')' :: later) <:+ later := by
  rw [h]
  show skipComments (')' != '\n') later <:+ later
  exact skipComments_suffix _ later

theorem OpenComment.skipBlanks_eq_nil (h : OpenComment f text) (hlater : '\n' ∉ later) :
    skipBlanks f (text ++ ')' :: later) = [] := by
  rw [h]
  exact skipComments_of_notMem (List.not_mem_cons_of_ne_of_not_mem (by decide) hlater)

/-- Behind blanks a reader that needs a character gives the same for a text that goes on. -/
theorem Extends.afterBlanks {e : PatternError} (f : Flags) (text : Text) (hnil : P [] = .error e)
    (hP : ∀ text, Extends bound later (P text) (P (text ++ ')' :: later)))
    (hleaves : ∀ text a rest, text <:+ later → P text = .ok (a, rest) → rest <:+ bound) :
    Extends bound later (P (skipBlanks f text)) (P (skipBlanks f (text ++ ')' :: later))) := by
  rcases skipBlanks_append f text with happend | ⟨hskip, hcomment⟩
  · rw [happend]
    exact hP _
  · rw [hskip]
    exact .of_error hnil fun a rest h => hleaves _ a rest (hcomment.skipBlanks_suffix later) h

theorem Reads.afterBlanks {e : PatternError} (f : Flags) (hP : Reads P) (hnil : P [] = .error e) :
    Reads fun text => P (skipBlanks f text) := fun text => {
  leaves := fun _ _ h => (hP.leaves h).trans (skipBlanks_suffix f text)
  goesOn := fun later => .afterBlanks f text hnil (fun text => (hP text).goesOn later) fun _ _ _ hsuffix h =>
    (hP.leaves h).trans hsuffix }

@[simp] theorem skipBlanks_nil (f : Flags) : skipBlanks f [] = [] := by
  unfold skipBlanks
  split <;> rfl

/-! ## Escapes -/

theorem reads_takeSpaced (f : Flags) (n : Nat) : Reads (takeSpaced f n) := by
  induction n with
  | zero => exact .pure []
  | succ n ih =>
    refine Reads.congr (.afterBlanks f (.of_cons (P := fun text => List.casesOn text (.error .badEscape) fun c rest =>
      (takeSpaced f n rest).map fun x => (c :: x.1, x.2)) rfl fun c => ih.map (c :: ·)) rfl) fun text => ?_
    rw [takeSpaced]
    cases skipBlanks f text <;> rfl

theorem takeUntil_leaves {sign : Char} {e : PatternError} {taken rest : Text}
    (h : takeUntil sign e text = .ok (taken, rest)) : rest <:+ text := by
  induction text generalizing taken rest with
  | nil => cases h
  | cons c text ih =>
    unfold takeUntil at h
    split at h
    · cases h
      exact List.suffix_cons c text
    · obtain ⟨⟨taken, rest⟩, h, heq⟩ := map_eq_ok.1 h
      cases heq
      exact (ih h).trans (List.suffix_cons c text)

theorem reads_takeUntil {sign : Char} (hsign : sign ≠ ')') (e : PatternError) : Reads (takeUntil sign e) := by
  intro text
  refine ⟨fun taken rest => takeUntil_leaves, fun later => ?_⟩
  induction text with
  | nil =>
    refine .of_error rfl fun taken rest h => ?_
    rw [List.nil_append, takeUntil, if_neg hsign.symm] at h
    obtain ⟨⟨taken, rest⟩, h, heq⟩ := map_eq_ok.1 h
    cases heq
    exact takeUntil_leaves h
  | cons c text ih =>
    rw [List.cons_append, takeUntil, takeUntil]
    split
    · exact .ok [] text
    · exact ih.map (c :: ·)

/-- Characters of a kind are taken alike from a text that goes on, unless all of the text is taken. -/
theorem takeSpacedWhile_append (f : Flags) (p : Char → Bool) (inComment : Bool) (text : Text) :
    (∀ tail, takeSpacedWhile f p inComment (text ++ tail) =
      ((takeSpacedWhile f p inComment text).1, (takeSpacedWhile f p inComment text).2 ++ tail)) ∨
    (takeSpacedWhile f p inComment text).2 = [] ∧ ∃ inComment', ∀ tail, takeSpacedWhile f p inComment (text ++ tail) =
      ((takeSpacedWhile f p inComment text).1 ++ (takeSpacedWhile f p inComment' tail).1,
        (takeSpacedWhile f p inComment' tail).2) := by
  induction text generalizing inComment with
  | nil => exact .inr ⟨rfl, inComment, fun tail => rfl⟩
  | cons c text ih =>
    -- The character stands in a comment, is a blank, opens a comment, is taken, or ends what is taken.
    simp only [List.cons_append, takeSpacedWhile]
    split
    · exact ih _
    · split
      · exact ih false
      · split
        · exact ih true
        · split
          · rcases ih false with h | ⟨hnil, inComment', h⟩
            · exact .inl fun tail => by rw [h]
            · exact .inr ⟨hnil, inComment', fun tail => by rw [h]; rfl⟩
          · exact .inl fun tail => rfl

theorem takeSpacedWhile_suffix (f : Flags) (p : Char → Bool) (inComment : Bool) (text : Text) :
    (takeSpacedWhile f p inComment text).2 <:+ text := by
  induction text generalizing inComment with
  | nil => exact List.suffix_refl []
  | cons c text ih =>
    have hcons := List.suffix_cons c text
    unfold takeSpacedWhile
    split
    · exact (ih _).trans hcons
    · split
      · exact (ih false).trans hcons
      · split
        · exact (ih true).trans hcons
        · split
          · exact (ih false).trans hcons
          · exact List.suffix_refl _

/-- A closing parenthesis is left over, or it is taken or stands in a comment. -/
theorem takeSpacedWhile_close (f : Flags) (p : Char → Bool) (inComment : Bool) (later : Text) :
    takeSpacedWhile f p inComment (')' :: later) = ([], ')' :: later) ∨
      (takeSpacedWhile f p inComment (')' :: later)).2 <:+ later := by
  cases inComment with
  | true => exact .inr (takeSpacedWhile_suffix f p _ later)
  | false =>
    have hclose : (')' == '#') = false := rfl
    rw [takeSpacedWhile, isBlank_close, hclose, Bool.and_false]
    simp only [Bool.false_eq_true, if_false]
    split
    · exact .inr (takeSpacedWhile_suffix f p false later)
    · exact .inl rfl

/-- Behind characters of a kind a reader that needs a character gives the same for a text that goes on. -/
theorem Reads.spaced {Q : Text → Text → Except PatternError (β × Text)} (f : Flags) (p : Char → Bool)
    (hQ : ∀ taken, Reads (Q taken)) (hnil : ∀ taken, ∃ e, Q taken [] = .error e) :
    Reads fun text => Q (takeSpacedWhile f p false text).1 (takeSpacedWhile f p false text).2 := fun text => {
  leaves := fun _ _ h => ((hQ _).leaves h).trans (takeSpacedWhile_suffix f p false text)
  goesOn := fun later => by
    rcases takeSpacedWhile_append f p false text with h | ⟨hrest, inComment, h⟩
    · rw [h]
      exact (hQ _ _).goesOn later
    · rw [h]
      rcases takeSpacedWhile_close f p inComment later with hclose | hcrosses
      · rw [hclose, hrest, List.append_nil]
        exact (hQ _ []).goesOn later
      · obtain ⟨e, he⟩ := hnil (takeSpacedWhile f p false text).1
        rw [hrest]
        exact .of_error he fun _ _ hwhole => ((hQ _).leaves hwhole).trans hcrosses }

theorem reads_closeBrace (e : PatternError) (a : α) : Reads (closeBrace e a) := by
  refine .of_head '\x7d' (by decide) (.pure a) (.fail e) (fun rest => rfl) fun text h => ?_
  unfold closeBrace
  split
  · exact absurd rfl h
  · rfl

theorem reads_readBraced (f : Flags) : Reads (readBraced f) :=
  .spaced f _ (fun inner => reads_closeBrace .badEscape inner) fun _ => ⟨_, rfl⟩

/-- A value that does not depend on a reader. -/
theorem extends_map (x : Except PatternError β) (g : β → α) (text later : Text) :
    Extends bound later (x.map fun s => (g s, text)) (x.map fun s => (g s, text ++ ')' :: later)) := by
  cases x with
  | error e => exact .error e e
  | ok s => exact .ok (g s) text

theorem reads_map (x : Except PatternError α) : Reads fun text => x.map fun a => (a, text) := fun text => {
  leaves := by
    intro a rest h
    obtain ⟨a, -, heq⟩ := map_eq_ok.1 h
    cases heq
    exact List.suffix_refl text
  goesOn := fun later => extends_map x id text later }

theorem reads_readDigits (f : Flags) (count : Nat) : Reads (readDigits f count) := by
  have hbraced := (reads_readBraced f).bind fun digits => reads_map (literalOfHex f false digits)
  have hplain := (reads_takeSpaced f count).bind fun digits => reads_map (literalOfHex f (count == 2) digits)
  refine .of_head '\x7b' (by decide) hbraced hplain (fun rest => rfl) fun text h => ?_
  unfold readDigits
  split
  · exact absurd rfl h
  · rfl

theorem reads_readHex (f : Flags) (n : Nat) : Reads (readHex f (n + 1)) := by
  refine .afterBlanks (e := .badEscape) f (reads_readDigits f (n + 1)) ?_
  rw [readDigits]
  · rw [takeSpaced, skipBlanks_nil]
    rfl
  · exact fun rest h => nomatch h

theorem reads_readPropertyName (f : Flags) : Reads (readPropertyName f) := by
  refine .of_cons rfl fun c => ?_
  simp only [readPropertyName]
  split
  · exact reads_readBraced f
  · split
    · exact .fail _
    · exact .pure [c]

theorem reads_readProperty [CharSet.Tables] (f : Flags) (negated : Bool) : Reads (readProperty f negated) := by
  have hname : Reads fun text => readPropertyName f (skipBlanks f text) := .afterBlanks f (reads_readPropertyName f) rfl
  refine (hname.bind (Q := fun name rest => if f.asciiOnly then .error .onlyAscii else
    (CharSet.Tables.property? name).elim (.error .unknownProperty) fun s =>
      .ok (Escaped.set (negatedIf negated (folded f s)), rest)) fun name => ?_).congr fun text => ?_
  · split
    · exact .fail _
    · cases CharSet.Tables.property? name with
      | none => exact .fail _
      | some s => exact .pure _
  · unfold readProperty
    congr 1
    funext ⟨name, rest⟩
    dsimp only
    cases CharSet.Tables.property? name with
    | none => rfl
    | some s => rfl

theorem dropWhile_close {p : Char → Bool} (hp : p ')' = false) (text later : Text) :
    (text ++ ')' :: later).dropWhile p = text.dropWhile p ++ ')' :: later := by
  induction text with
  | nil => simp [hp]
  | cons c text ih =>
    rw [List.cons_append, List.dropWhile_cons, List.dropWhile_cons, ih]
    split <;> rfl

theorem drop_takeWhile_append (p : Char → Bool) (text tail : Text) :
    (text ++ tail).drop (text.takeWhile p).length = text.drop (text.takeWhile p).length ++ tail :=
  List.drop_append_of_le_length (List.takeWhile_prefix p).length_le

theorem reads_readBoundaryName (f : Flags) (word : CharSet) : Reads (readBoundaryName f word) := by
  have hname := Reads.spaced (Q := fun name rest =>
    (boundaryNames.find? (·.1.toList == name)).elim (.error .badEscape) fun x =>
      closeBrace .badEscape (Escaped.holds (x.2 word)) rest) f namesBoundary (fun name => ?_) fun name => ?_
  · refine hname.congr fun text => ?_
    unfold readBoundaryName
    dsimp only
    cases boundaryNames.find? (·.1.toList == (takeSpacedWhile f namesBoundary false text).1) with
    | none => rfl
    | some x => rfl
  · cases boundaryNames.find? (·.1.toList == name) with
    | none => exact .fail _
    | some x => exact reads_closeBrace _ _
  · cases boundaryNames.find? (·.1.toList == name) with
    | none => exact ⟨_, rfl⟩
    | some x => exact ⟨_, rfl⟩

/-- An opening brace behind the letter b, and nothing but blanks and comments behind it. -/
def OpenBoundary (f : Flags) (text : Text) : Prop :=
  ∃ inner, text = '\x7b' :: inner ∧ skipBlanks f inner = []

theorem readsAt_readBoundary (word : CharSet) (h : ¬ OpenBoundary f text) : ReadsAt (readBoundary f word) text := by
  by_cases hbrace : text.head? = some '\x7b'
  · obtain ⟨inner, rfl⟩ := List.head?_eq_some_iff.1 hbrace
    cases hskip : skipBlanks f inner with
    | nil => exact absurd ⟨inner, rfl, hskip⟩ h
    | cons c rest =>
      have hname := reads_readBoundaryName f word (c :: rest)
      constructor
      · intro e rest' hrest
        simp only [readBoundary, hskip] at hrest
        split at hrest
        · exact ((hname.leaves e rest' hrest).trans (hskip ▸ skipBlanks_suffix f inner)).trans (List.suffix_cons _ _)
        · cases hrest
          exact List.suffix_refl _
      · intro later
        rcases skipBlanks_append f inner with happend | ⟨hnil, -⟩
        · simp only [List.cons_append, readBoundary, happend, hskip]
          split
          · exact hname.goesOn later
          · exact .ok _ _
        · cases hskip.symm.trans hnil
  · -- Without a brace it is the plain word boundary, and nothing more is taken.
    have hplain : ∀ text : Text, text.head? ≠ some '\x7b' →
        readBoundary f word text = .ok (.holds (.wordBoundary word), text) := by
      intro text h
      unfold readBoundary
      split
      · exact absurd rfl h
      · rfl
    constructor
    · intro e rest hrest
      rw [hplain text hbrace] at hrest
      cases hrest
      exact List.suffix_refl _
    · intro later
      rw [hplain text hbrace, hplain]
      · exact .ok _ text
      · cases text with
        | nil => exact fun h => nomatch h
        | cons c text => exact hbrace

/-- With a closing parenthesis behind it an open brace is no name of a word boundary. -/
theorem readBoundary_open (word : CharSet) (h : OpenBoundary f text) (later : Text) :
    readBoundary f word text = .error .badEscape ∧
      ∀ e rest, readBoundary f word (text ++ ')' :: later) = .ok (e, rest) →
        rest <:+ later ∨ e = .holds (.wordBoundary word) ∧ rest = text ++ ')' :: later := by
  obtain ⟨inner, rfl, hskip⟩ := h
  refine ⟨by simp only [readBoundary, hskip], fun e rest hrest => ?_⟩
  simp only [List.cons_append, readBoundary] at hrest
  split at hrest
  · cases hrest
  · rename_i c rest' hwhole
    split at hrest
    · rename_i hname
      have hleaves := (reads_readBoundaryName f word).leaves hrest
      rw [← hwhole] at hleaves
      rcases skipBlanks_append f inner with happend | ⟨-, hcomment⟩
      · rw [happend, hskip, List.nil_append] at hwhole
        cases hwhole
        exact absurd hname (by decide)
      · exact .inl (hleaves.trans (hcomment.skipBlanks_suffix later))
    · cases hrest
      exact .inr ⟨rfl, rfl⟩

/-- A backslash has been read, the letter b and an opening brace follow, and then nothing but blanks and comments. -/
def OpenEscape (f : Flags) (text : Text) : Prop :=
  ∃ rest, text = 'b' :: rest ∧ OpenBoundary f rest

section

variable [CharSet.Tables]

theorem reads_readNegatedLetter (f : Flags) (letter : Char) : Reads (readNegatedLetter f letter) := by
  unfold readNegatedLetter
  split
  · exact .fail _
  · exact .pure _

theorem reads_readLongEscape {c : Char} (hc : c ≠ 'b') (f : Flags) : Reads (readLongEscape f c) := by
  unfold readLongEscape
  split
  · exact reads_readNegatedLetter f 'd'
  · exact reads_readNegatedLetter f 's'
  · exact reads_readNegatedLetter f 'w'
  · exact reads_readHex f 1
  · exact reads_readHex f 3
  · exact reads_readHex f 7
  · exact reads_readProperty f false
  · exact reads_readProperty f true
  · exact absurd rfl hc
  · exact .fail _

theorem reads_readEscape_cons {c : Char} (hc : c ≠ 'b') (f : Flags) : Reads fun rest => readEscape f (c :: rest) := by
  simp only [readEscape]
  cases plainEscape? f c with
  | some e => exact .pure e
  | none => exact reads_readLongEscape hc f

theorem readsAt_readEscape (h : ¬ OpenEscape f text) : ReadsAt (readEscape f) text := by
  cases text with
  | nil => exact .nil rfl fun later e rest h => (reads_readEscape_cons (by decide) f).leaves h
  | cons c rest =>
    refine .cons ?_
    by_cases hc : c = 'b'
    · subst hc
      exact readsAt_readBoundary (letterSet f 'w') fun hopen => h ⟨rest, rfl, hopen⟩
    · exact reads_readEscape_cons hc f rest

/-- With a closing parenthesis behind it an open escape is no escape of a known kind. -/
theorem readEscape_open (h : OpenEscape f text) (later : Text) : readEscape f text = .error .badEscape ∧
    ∀ e rest, readEscape f (text ++ ')' :: later) = .ok (e, rest) →
      rest <:+ later ∨ e = .holds (.wordBoundary (letterSet f 'w')) ∧ ∃ inner, text = 'b' :: inner ∧
        OpenBoundary f inner ∧ rest = inner ++ ')' :: later := by
  obtain ⟨inner, rfl, hopen⟩ := h
  obtain ⟨halone, hwhole⟩ := readBoundary_open (letterSet f 'w') hopen later
  exact ⟨halone, fun e rest hrest => (hwhole e rest hrest).imp_right fun ⟨he, hrest⟩ => ⟨he, inner, rfl, hopen, hrest⟩⟩

theorem readEscape_leaves {e : Escaped} {rest : Text} (h : readEscape f text = .ok (e, rest)) : rest <:+ text := by
  by_cases hopen : OpenEscape f text
  · cases (readEscape_open hopen []).1.symm.trans h
  · exact (readsAt_readEscape hopen).leaves e rest h

end

end TextAnalysis.Pattern
