/-
# Classes in front of a closing parenthesis

A class is read item by item. An item may leave a closing parenthesis for the next one, but a class ends at a closing
bracket: if it does not end in a text, then it takes the parenthesis behind the text for one of its members.
-/
import TextAnalysis.Proofs.Patterns.Readers

namespace TextAnalysis.Pattern

variable {α β : Type} {f : Flags} {text later bound : Text}

/-! ## Opening a class -/

/-- Hyphens are taken alike from a text that goes on, unless a comment is open at the end. -/
theorem takeHyphens_append (f : Flags) (o : OpenClass) (inComment : Bool) (text : Text) :
    (∀ later, takeHyphens f o inComment (text ++ ')' :: later) =
      ((takeHyphens f o inComment text).1, (takeHyphens f o inComment text).2 ++ ')' :: later)) ∨
    (takeHyphens f o inComment text).2 = [] ∧ ∃ o', ∀ tail, takeHyphens f o inComment (text ++ tail) =
      takeHyphens f o' true tail := by
  induction text generalizing o inComment with
  | nil =>
    cases inComment with
    | true => exact .inr ⟨rfl, o, fun tail => rfl⟩
    | false =>
      refine .inl fun later => ?_
      simp [takeHyphens, isBlank_close]
  | cons c text ih =>
    -- The character stands in a comment, is a hyphen or a blank, opens a comment, or ends the hyphens.
    simp only [List.cons_append, takeHyphens]
    split
    · exact ih o _
    · split
      · exact ih _ false
      · split
        · exact ih o false
        · split
          · exact ih o true
          · exact .inl fun later => rfl

theorem takeHyphens_suffix (f : Flags) (o : OpenClass) (inComment : Bool) (text : Text) :
    (takeHyphens f o inComment text).2 <:+ text := by
  induction text generalizing o inComment with
  | nil => exact List.suffix_refl []
  | cons c text ih =>
    have hcons := List.suffix_cons c text
    unfold takeHyphens
    split
    · exact (ih o _).trans hcons
    · split
      · exact (ih _ false).trans hcons
      · split
        · exact (ih o false).trans hcons
        · split
          · exact (ih o true).trans hcons
          · exact List.suffix_refl _

theorem extends_goOnWithin (o : OpenClass) (text later : Text) :
    Extends (')' :: later) later (goOnWithin o text) (goOnWithin o (text ++ ')' :: later)) := by
  cases text with
  | nil => exact .crosses _ o (List.suffix_refl _)
  | cons c text => exact .ok o (c :: text)

theorem goOnWithin_leaves {o o' : OpenClass} {rest : Text} (h : goOnWithin o text = .ok (o', rest)) : rest = text := by
  unfold goOnWithin at h
  split at h <;> cases h
  rfl

theorem openMembers_leaves {negated : Bool} {o : OpenClass} {rest : Text}
    (h : openMembers f negated text = .ok (o, rest)) : rest <:+ text := by
  unfold openMembers at h
  split at h
  · cases h
  · rename_i c text
    split at h
    · exact goOnWithin_leaves h ▸ List.suffix_cons c text
    · exact goOnWithin_leaves h ▸ takeHyphens_suffix f _ false (c :: text)

theorem extends_openMembers (negated : Bool) (text later : Text) :
    Extends (')' :: later) later (openMembers f negated text) (openMembers f negated (text ++ ')' :: later)) := by
  cases text with
  | nil => exact .of_error rfl fun o rest h => openMembers_leaves h
  | cons c text =>
    simp only [List.cons_append, openMembers]
    split
    · exact extends_goOnWithin _ text later
    · rcases takeHyphens_append f { negated } false (c :: text) with h | ⟨hnil, o', h⟩
      · rw [← List.cons_append, h]
        exact extends_goOnWithin _ _ later
      · refine .of_error (e := .unclosedClass) (by rw [hnil]; rfl) fun o rest hrest => ?_
        rw [goOnWithin_leaves hrest, ← List.cons_append, h]
        exact takeHyphens_suffix f o' true (')' :: later)

theorem openClass_leaves {o : OpenClass} {rest : Text} (h : openClass f text = .ok (o, rest)) : rest <:+ text := by
  unfold openClass at h
  split at h
  · cases h
  · rename_i c text
    split at h
    · exact ((openMembers_leaves h).trans (skipBlanks_suffix f text)).trans (List.suffix_cons c text)
    · exact openMembers_leaves h

theorem extends_openClass (text later : Text) : Extends (')' :: later) later (openClass f (skipBlanks f text))
    (openClass f (skipBlanks f (text ++ ')' :: later))) := by
  have hleaves : ∀ negated text a rest, text <:+ later → openMembers f negated text = .ok (a, rest) →
      rest <:+ ')' :: later :=
    fun _ _ _ _ hsuffix h => ((openMembers_leaves h).trans hsuffix).trans (List.suffix_cons _ _)
  refine .afterBlanks f text rfl (fun text => ?_) fun text a rest hsuffix h =>
    ((openClass_leaves h).trans hsuffix).trans (List.suffix_cons _ _)
  cases text with
  | nil => exact .of_error rfl fun a rest h => openClass_leaves h
  | cons c text =>
    simp only [List.cons_append, openClass]
    split
    · exact .afterBlanks f text rfl (fun text => extends_openMembers true text later) (hleaves true)
    · exact extends_openMembers false (c :: text) later

/-! ### Members -/

theorem extends_rangeSet {first : Escaped} {x y : Except PatternError (Escaped × Text)} (h : Extends bound later x y) :
    Extends bound later (x >>= fun x => (rangeSet f first x.1).map fun s => (s, x.2))
      (y >>= fun x => (rangeSet f first x.1).map fun s => (s, x.2)) := by
  refine h.bind (Q := fun last rest => (rangeSet f first last).map fun s => (s, rest)) ?_ fun last rest _ =>
    extends_map _ id rest later
  intro last text s rest hs
  obtain ⟨s, -, heq⟩ := map_eq_ok.1 hs
  cases heq
  exact List.suffix_refl _

theorem rangeSet_holds (f : Flags) (first : Escaped) (a : Assertion) :
    rangeSet f first (.holds a) = .error .badRange := by
  cases first <;> rfl

section

variable [CharSet.Tables]

theorem takes_readMember : Takes (readMember f) := by
  refine .of_cons (by rintro x ⟨⟩) fun c text e rest h => ?_
  rw [readMember] at h
  split at h
  · exact readEscape_leaves h
  · cases h
    exact List.suffix_refl _

/-- A backslash, and then an open escape. -/
def OpenMember (f : Flags) (text : Text) : Prop :=
  ∃ rest, text = '\\' :: rest ∧ OpenEscape f rest

theorem readsAt_readMember (h : ¬ OpenMember f text) : ReadsAt (readMember f) text := by
  cases text with
  | nil => exact .nil rfl fun later e rest h => by cases h; exact List.suffix_refl _
  | cons c rest =>
    refine .cons ?_
    simp only [readMember]
    split
    · rename_i hc
      exact readsAt_readEscape fun hopen => h ⟨rest, hc ▸ rfl, hopen⟩
    · exact Reads.pure _ rest

/-- With a closing parenthesis behind it an open escape is no character of a class. -/
theorem readMember_open (h : OpenMember f text) (later : Text) : readMember f text = .error .badEscape ∧
    ∀ e rest, readMember f (text ++ ')' :: later) = .ok (e, rest) →
      rest <:+ later ∨ e = .holds (.wordBoundary (letterSet f 'w')) ∧ rest.head? = some '\x7b' := by
  obtain ⟨escape, rfl, hopen⟩ := h
  obtain ⟨halone, hwhole⟩ := readEscape_open hopen later
  refine ⟨halone, fun e rest hrest => (hwhole e rest hrest).imp_right ?_⟩
  rintro ⟨he, _, -, ⟨inner, rfl, -⟩, rfl⟩
  exact ⟨he, rfl⟩

theorem readRangeEnd_leaves {first : Escaped} {s : CharSet} {rest : Text}
    (h : readRangeEnd f first text = .ok (s, rest)) : rest <:+ '-' :: text := by
  unfold readRangeEnd at h
  split at h
  · cases h
  · rename_i c after hskip
    split at h
    · obtain ⟨s, -, heq⟩ := map_eq_ok.1 h
      cases heq
      exact List.suffix_refl _
    · obtain ⟨⟨last, rest⟩, hlast, h⟩ := bind_eq_ok.1 h
      obtain ⟨s, -, heq⟩ := map_eq_ok.1 h
      cases heq
      exact ((takes_readMember hlast).1.trans (hskip ▸ skipBlanks_suffix f text)).trans (List.suffix_cons _ _)

theorem readRange_leaves {first : Escaped} {s : CharSet} {rest : Text}
    (h : readRange f first text = .ok (s, rest)) : rest <:+ text := by
  unfold readRange at h
  split at h
  · cases h
  · rename_i c text
    split at h
    · rename_i hc
      exact hc ▸ readRangeEnd_leaves h
    · obtain ⟨s, -, heq⟩ := map_eq_ok.1 h
      cases heq
      exact List.suffix_refl _

theorem takes_readItem : Takes (readItem f) := by
  intro text s rest h
  obtain ⟨⟨first, mid⟩, hfirst, h⟩ := bind_eq_ok.1 h
  obtain ⟨hsuffix, hlength⟩ := takes_readMember hfirst
  have hrest := (readRange_leaves h).trans (skipBlanks_suffix f mid)
  exact ⟨hrest.trans hsuffix, Nat.lt_of_le_of_lt hrest.length_le hlength⟩

theorem extends_readRangeEnd (first : Escaped) (text later : Text) : Extends (')' :: later) later
    (readRangeEnd f first text) (readRangeEnd f first (text ++ ')' :: later)) := by
  unfold readRangeEnd
  rcases skipBlanks_append f text with happend | ⟨hskip, hcomment⟩
  · rw [happend]
    cases skipBlanks f text with
    | nil =>
      refine .of_error rfl fun s rest h => ?_
      obtain ⟨⟨last, rest⟩, hlast, h⟩ := bind_eq_ok.1 h
      obtain ⟨s, -, heq⟩ := map_eq_ok.1 h
      cases heq
      exact (takes_readMember hlast).1
    | cons c after =>
      simp only [List.cons_append]
      split
      · exact extends_map _ id ('-' :: text) later
      · by_cases hopen : OpenMember f (c :: after)
        · obtain ⟨halone, hwhole⟩ := readMember_open hopen later
          refine .of_error (by rw [halone]; rfl) fun s rest h => ?_
          obtain ⟨⟨last, rest⟩, hlast, h⟩ := bind_eq_ok.1 h
          obtain ⟨s, hs, heq⟩ := map_eq_ok.1 h
          cases heq
          rcases hwhole last rest hlast with hrest | ⟨rfl, -⟩
          · exact hrest.trans (List.suffix_cons _ _)
          · cases (rangeSet_holds f first (.wordBoundary (letterSet f 'w'))).symm.trans hs
        · exact extends_rangeSet (((readsAt_readMember hopen).goesOn later).mono (List.suffix_cons _ _))
  · rw [hskip]
    by_cases hlater : '\n' ∈ later
    · exact .newLine _ _ hlater
    · rw [hcomment.skipBlanks_eq_nil hlater]
      exact .error _ _

theorem extends_readRange (first : Escaped) (text later : Text) : Extends (')' :: later) later
    (readRange f first text) (readRange f first (text ++ ')' :: later)) := by
  cases text with
  | nil => exact .of_error rfl fun s rest h => readRange_leaves h
  | cons c text =>
    simp only [List.cons_append, readRange]
    split
    · exact extends_readRangeEnd first text later
    · exact extends_map _ id (c :: text) later

theorem extends_readItem (text later : Text) :
    Extends (')' :: later) later (readItem f text) (readItem f (text ++ ')' :: later)) := by
  have hcons := List.suffix_cons ')' later
  by_cases hopen : OpenMember f text
  · obtain ⟨halone, hwhole⟩ := readMember_open hopen later
    refine .of_error (e := .badEscape) (by rw [readItem, halone]; rfl) fun s rest h => ?_
    obtain ⟨⟨first, mid⟩, hfirst, h⟩ := bind_eq_ok.1 h
    rcases hwhole first mid hfirst with hmid | ⟨rfl, hbrace⟩
    · exact (((readRange_leaves h).trans (skipBlanks_suffix f mid)).trans hmid).trans hcons
    · obtain ⟨inner, rfl⟩ := List.head?_eq_some_iff.1 hbrace
      simp only [skipBlanks_brace] at h
      cases h
  · refine (((readsAt_readMember hopen).goesOn later).mono hcons).bind
      (Q := fun first rest => readRange f first (skipBlanks f rest)) ?_ fun first rest _ => ?_
    · exact fun first text s rest h => (readRange_leaves h).trans (skipBlanks_suffix f text)
    · exact .afterBlanks f rest rfl (fun text => extends_readRange first text later) fun text s rest hsuffix h =>
        ((readRange_leaves h).trans hsuffix).trans hcons

end

/-! ### Signs of classes -/

theorem takeSign_append {sign : Char} (h : sign ≠ ')') (text later : Text) : takeSign sign (text ++ ')' :: later) =
    ((takeSign sign text).1, (takeSign sign text).2 ++ ')' :: later) := by
  cases text with
  | nil => simp [takeSign, h.symm]
  | cons c text =>
    rw [List.cons_append, takeSign, takeSign]
    split <;> rfl

theorem takeSign_suffix (sign : Char) (text : Text) : (takeSign sign text).2 <:+ text := by
  cases text with
  | nil => exact List.suffix_refl []
  | cons c text =>
    rw [takeSign]
    split
    · exact List.suffix_cons c text
    · exact List.suffix_refl _

theorem operationAt?_append (text later : Text) : operationAt? (text ++ ')' :: later) =
    (operationAt? text).map fun x => (x.1, x.2 ++ ')' :: later) := by
  match text with
  | [] => cases later <;> simp [operationAt?, SetOperation.ofSign?]
  | [c] =>
    simp only [List.cons_append, List.nil_append, operationAt?, Option.map_none, ite_eq_right_iff]
    rintro rfl
    rfl
  | c :: d :: text =>
    simp only [List.cons_append, operationAt?]
    split
    · cases SetOperation.ofSign? c <;> rfl
    · rfl

theorem operationAt?_suffix {c : Char} {o : SetOperation} {rest : Text}
    (h : operationAt? (c :: text) = some (o, rest)) :
    rest <:+ text := by
  cases text with
  | nil => cases h
  | cons d text =>
    rw [operationAt?] at h
    split at h
    · obtain ⟨o, -, heq⟩ := Option.map_eq_some_iff.1 h
      cases heq
      exact List.suffix_cons d _
    · cases h

theorem afterClassName?_append (text later : Text) : afterClassName? (text ++ ')' :: later) =
    (afterClassName? text).map (· ++ ')' :: later) := by
  match text with
  | [] => rfl
  | [c] => by_cases hc : c = ':' <;> simp [afterClassName?, hc]
  | c :: d :: text => by_cases hc : c = ':' <;> by_cases hd : d = ']' <;> simp [afterClassName?, hc, hd]

theorem afterClassName?_suffix {rest : Text} (h : afterClassName? text = some rest) : rest <:+ text := by
  unfold afterClassName? at h
  split at h
  · cases h
    exact ⟨[':', ']'], rfl⟩
  · cases h

/-- No ASCII class has a name with a parenthesis. -/
theorem asciiClass?_of_mem {name : Text} (h : ')' ∈ name) : CharSet.asciiClass? name = none := by
  have hnames : ∀ x ∈ CharSet.asciiClasses, ')' ∉ x.1.toList := by decide +kernel
  rw [CharSet.asciiClass?, Option.map_eq_none_iff, List.find?_eq_none]
  intro x hx heq
  exact hnames x hx (eq_of_beq heq ▸ h)

theorem namedClass?_append (text later : Text) : namedClass? (text ++ ')' :: later) =
    (namedClass? text).map fun x => (x.1, x.2 ++ ')' :: later) := by
  unfold namedClass?
  dsimp only
  rw [List.takeWhile_append]
  split
  · rename_i hall
    -- The name goes on behind the parenthesis, and there is no such class.
    have hname : ')' ∈ text ++ (')' :: later).takeWhile (· != ':') := by simp
    rw [asciiClass?_of_mem hname, hall, List.drop_length]
    cases CharSet.asciiClass? (text.takeWhile (· != ':')) <;> rfl
  · rw [drop_takeWhile_append, afterClassName?_append]
    cases CharSet.asciiClass? (text.takeWhile (· != ':')) with
    | none => rfl
    | some s => simp [Function.comp_def]

theorem namedClass?_suffix {s : CharSet} {rest : Text} (h : namedClass? text = some (s, rest)) : rest <:+ text := by
  obtain ⟨s, -, h⟩ := Option.bind_eq_some_iff.1 h
  obtain ⟨rest, hrest, heq⟩ := Option.map_eq_some_iff.1 h
  cases heq
  exact (afterClassName?_suffix hrest).trans (List.drop_suffix _ _)

theorem asciiClassAt?_append (text later : Text) : asciiClassAt? (text ++ ')' :: later) =
    (asciiClassAt? text).map fun x => (x.1, x.2 ++ ')' :: later) := by
  cases text with
  | nil => rfl
  | cons c text =>
    simp only [List.cons_append, asciiClassAt?]
    split
    · rw [takeSign_append (by decide), namedClass?_append, Option.map_map, Option.map_map]
      rfl
    · rfl

theorem asciiClassAt?_suffix {x : Bool × CharSet} {rest : Text} (h : asciiClassAt? text = some (x, rest)) :
    rest <:+ text := by
  unfold asciiClassAt? at h
  split at h
  · cases h
  · rename_i c text
    dsimp only at h
    split at h
    · obtain ⟨⟨s, rest⟩, hnamed, heq⟩ := Option.map_eq_some_iff.1 h
      cases heq
      exact ((namedClass?_suffix hnamed).trans (takeSign_suffix '^' text)).trans (List.suffix_cons c text)
    · cases h

/-! ### Steps through a class -/

section

variable [CharSet.Tables]

theorem classWithin_leaves {top : OpenClass} {outer : List OpenClass} {x : ClassState} {rest : Text}
    (h : classWithin f top outer text = .ok (x, rest)) : rest <:+ text := by
  unfold classWithin at h
  split at h
  · rename_i hclass
    obtain ⟨s, -, heq⟩ := map_eq_ok.1 h
    cases heq
    exact asciiClassAt?_suffix hclass
  · obtain ⟨⟨o, rest⟩, hopen, heq⟩ := map_eq_ok.1 h
    cases heq
    exact (openClass_leaves hopen).trans (skipBlanks_suffix f text)

theorem takes_classStep {top : OpenClass} {outer : List OpenClass} : Takes (classStep f top outer) := by
  intro text x rest h
  cases text with
  | nil => cases h
  | cons c text =>
    have htext : rest <:+ text → rest <:+ c :: text ∧ rest.length < (c :: text).length :=
      fun h => ⟨h.trans (List.suffix_cons c text), Nat.lt_succ_of_le h.length_le⟩
    rw [classStep] at h
    split at h
    · exact htext (classWithin_leaves h)
    · split at h
      · obtain ⟨s, -, heq⟩ := map_eq_ok.1 h
        cases heq
        exact htext (List.suffix_refl _)
      · split at h
        · rename_i hoperation
          cases h
          exact htext (operationAt?_suffix hoperation)
        · obtain ⟨⟨s, rest⟩, hitem, heq⟩ := map_eq_ok.1 h
          cases heq
          exact takes_readItem hitem

theorem extends_classWithin (top : OpenClass) (outer : List OpenClass) (text later : Text) :
    Extends (')' :: later) later
    (classWithin f top outer text) (classWithin f top outer (text ++ ')' :: later)) := by
  unfold classWithin
  rw [asciiClassAt?_append]
  cases asciiClassAt? text with
  | some x => exact extends_map _ (fun s => ClassState.within (top.add s 0) outer) _ later
  | none => exact (extends_openClass text later).map fun inner => ClassState.within inner (top :: outer)

theorem extends_classStep (top : OpenClass) (outer : List OpenClass) (text later : Text) : Extends (')' :: later) later
    (classStep f top outer text) (classStep f top outer (text ++ ')' :: later)) := by
  cases text with
  | nil => exact .of_error rfl fun x rest h => (takes_classStep h).1
  | cons c text =>
    simp only [List.cons_append, classStep]
    split
    · exact extends_classWithin top outer text later
    · split
      · exact extends_map _ (fun s => top.leave s outer) text later
      · rw [← List.cons_append, operationAt?_append]
        cases operationAt? (c :: text) with
        | some x => exact .ok _ _
        | none => exact (extends_readItem (c :: text) later).map fun s => ClassState.within (top.add s 0) outer

/-- A class ends at a closing bracket. -/
theorem classStep_done {top : OpenClass} {outer : List OpenClass} {s : CharSet} {depth : Nat} {rest : Text}
    (h : classStep f top outer text = .ok (.done s depth, rest)) : text = ']' :: rest := by
  cases text with
  | nil => cases h
  | cons c text =>
    rw [classStep] at h
    split at h
    · unfold classWithin at h
      split at h
      · obtain ⟨s, -, heq⟩ := map_eq_ok.1 h
        cases heq
      · obtain ⟨o, -, heq⟩ := map_eq_ok.1 h
        cases heq
    · split at h
      · rename_i hc
        obtain ⟨s, -, heq⟩ := map_eq_ok.1 h
        rw [hc, (Prod.mk.inj heq).2]
      · split at h
        · cases h
        · obtain ⟨s, -, heq⟩ := map_eq_ok.1 h
          cases heq

theorem takes_readClass {n : Nat} {top : OpenClass} {outer : List OpenClass} : Takes (readClass f n top outer) := by
  intro text x rest h
  induction n generalizing top outer text with
  | zero => cases h
  | succ n ih =>
    have hskip := skipBlanks_suffix f text
    have hlength := hskip.length_le
    rw [readClass] at h
    split at h
    · cases h
    · rename_i hstep
      cases h
      have htakes := takes_classStep hstep
      exact ⟨htakes.1.trans hskip, by omega⟩
    · rename_i hstep
      have htakes := takes_classStep hstep
      have hrest := ih h
      exact ⟨hrest.1.trans (htakes.1.trans hskip), by omega⟩

/-- A class that does not end in a text does not end at the closing parenthesis behind it. -/
theorem classStep_done_crosses {top : OpenClass} {outer : List OpenClass} {e : PatternError} {s : CharSet} {depth : Nat}
    {rest : Text} (halone : classStep f top outer (skipBlanks f text) = .error e)
    (hwhole : classStep f top outer (skipBlanks f (text ++ ')' :: later)) = .ok (.done s depth, rest)) :
    rest <:+ later := by
  have hend := classStep_done hwhole
  rcases skipBlanks_append f text with happend | ⟨-, hcomment⟩
  · rw [happend] at hend
    cases hskip : skipBlanks f text with
    | nil =>
      rw [hskip] at hend
      cases hend
    | cons c u =>
      rw [hskip] at hend halone
      cases hend
      -- The class is closed in the longer text, so it is closed in this one.
      rw [happend, hskip] at hwhole
      obtain ⟨s, hclose, -⟩ := map_eq_ok.1 hwhole
      have hclosed : classStep f top outer (']' :: u) = (top.close f).map fun s => (top.leave s outer, u) := rfl
      rw [hclosed, hclose] at halone
      cases halone
  · have hsuffix := hcomment.skipBlanks_suffix later
    rw [hend] at hsuffix
    exact (List.suffix_cons _ _).trans hsuffix

theorem extends_readClass {n m : Nat} (top : OpenClass) (outer : List OpenClass) (text later : Text)
    (hn : text.length < n) (hm : (text ++ ')' :: later).length < m) : Extends later later
      (readClass f n top outer text) (readClass f m top outer (text ++ ')' :: later)) := by
  induction n generalizing m top outer text with
  | zero => exact absurd hn (Nat.not_lt_zero _)
  | succ n ih =>
    obtain ⟨m, rfl⟩ : ∃ k, m = k + 1 := ⟨m - 1, by omega⟩
    have hstep : Extends (')' :: later) later (classStep f top outer (skipBlanks f text))
        (classStep f top outer (skipBlanks f (text ++ ')' :: later))) :=
      .afterBlanks f text rfl (fun text => extends_classStep top outer text later) fun text x rest hsuffix h =>
        ((takes_classStep h).1.trans hsuffix).trans (List.suffix_cons _ _)
    rw [readClass, readClass]
    -- A step that succeeds in the text is the same in the longer one; one that fails may go on beyond the
    -- parenthesis.
    cases hx : classStep f top outer (skipBlanks f text) with
    | ok x =>
      obtain ⟨x, rest⟩ := x
      rw [hstep.eq_ok hx]
      cases x with
      | done s depth => exact .ok _ _
      | within top outer =>
        have hrest := (takes_classStep hx).2
        have hskip := (skipBlanks_suffix f text).length_le
        rw [List.length_append] at hm
        exact ih top outer rest (by omega) (by rw [List.length_append]; omega)
    | error e =>
      rw [hx] at hstep
      generalize hy : classStep f top outer (skipBlanks f (text ++ ')' :: later)) = y at hstep
      cases hstep with
      | error _ e' => exact .error e e'
      | newLine _ _ h => exact .newLine e _ h
      | crosses _ x hrest =>
        cases x with
        | done s depth => exact .crosses e _ (classStep_done_crosses hx hy)
        | within top outer =>
          refine .of_error rfl fun x rest' h => ?_
          have htakes := takes_readClass h
          have hlength := hrest.length_le
          exact suffix_of_length_lt (htakes.1.trans hrest) (by omega)

end

end TextAnalysis.Pattern
