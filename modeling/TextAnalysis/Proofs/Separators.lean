/-
# Runs between separators

A delimiter that is a run of characters of one set cuts a text into the maximal runs of the other characters.
-/
import Mathlib.Data.List.TakeWhile
import TextAnalysis.Pattern.Engine
import TextAnalysis.Proofs.Delimiting

namespace TextAnalysis

namespace Text

/-! ## Maximal runs -/

/-- The maximal runs of characters that are no separators, from left to right. -/
def runs (isSeparator : Char → Bool) (text : Text) : List Text :=
  (text.splitOnP isSeparator).filter (! ·.isEmpty)

variable {isSeparator : Char → Bool}

@[simp] theorem runs_nil : runs isSeparator [] = [] :=
  rfl

/-- The runs of a text are those before and those after any separator. -/
theorem runs_append_cons (before after : Text) {c : Char} (h : isSeparator c = true) :
    runs isSeparator (before ++ c :: after) = runs isSeparator before ++ runs isSeparator after := by
  unfold runs
  rw [List.splitOnP_append_cons _ _ h, List.filter_append]

/-- Separators in front of a text add no runs. -/
theorem runs_separators_append {separators : Text} (h : ∀ c ∈ separators, isSeparator c = true)
    (text : Text) : runs isSeparator (separators ++ text) = runs isSeparator text := by
  induction separators with
  | nil => rfl
  | cons c separators ih =>
    have htail := ih fun d hd => h d (List.mem_cons_of_mem _ hd)
    have hhead := runs_append_cons [] (separators ++ text) (h c (List.mem_cons_self ..))
    rw [List.nil_append, runs_nil, List.nil_append] at hhead
    rw [List.cons_append, hhead, htail]

/-- A text without separators is a single run, unless it is empty. -/
theorem runs_of_forall {text : Text} (h : ∀ c ∈ text, isSeparator c = false) :
    runs isSeparator text = if text.isEmpty then [] else [text] := by
  unfold runs
  rw [List.splitOnP_eq_singleton h]
  cases text <;> rfl

end Text

namespace Machine

/-! ## The machine of a run -/

/-- The machine that takes characters of a set, one at least. -/
def runOf (s : CharSet) : Machine :=
  ⟨#[.accept, .fork 2 0, .take s 1], 2⟩

theorem ofPattern_run (s : CharSet) : ofPattern (.repeated (.one s) 1 none true) = runOf s :=
  rfl

theorem reachedAt_take (s : CharSet) (place : Place) : (runOf s).reachedAt place [2] = #[2] := by
  simp [reachedAt, runOf, spread, Node.followers, Node.isResting]

theorem reachedAt_fork (s : CharSet) (place : Place) : (runOf s).reachedAt place [1] = #[2, 0] := by
  simp [reachedAt, runOf, spread, Node.followers, Node.isResting]

/-- In front of a first character the machine needs one of the set. -/
theorem endFrom_take (s : CharSet) (place : Place) (places : List Place) :
    (runOf s).endFrom (place :: places) [2] none =
      if place.after.any s.contains then (runOf s).endFrom places [1] none else none := by
  rw [endFrom, reachedAt_take]
  by_cases h : place.after.any s.contains = true
  · simp [runOf, accepts, Node.next?, h]
  · simp [runOf, accepts, Node.next?, h]

/-- After a first character the machine may end, and goes on as far as there are more of the set. -/
theorem endFrom_fork (s : CharSet) (place : Place) (places : List Place) (found : Option Nat) :
    (runOf s).endFrom (place :: places) [1] found =
      if place.after.any s.contains then (runOf s).endFrom places [1] (some place.index)
      else some place.index := by
  rw [endFrom, reachedAt_fork]
  by_cases h : place.after.any s.contains = true
  · simp [runOf, accepts, Node.next?, h]
  · simp [runOf, accepts, Node.next?, h]

/-- After a first character the machine ends behind the run. -/
theorem endFrom_run (s : CharSet) {text : Text} {index : Nat} {before : Option Char}
    {found : Option Nat} :
    (runOf s).endFrom (Place.listFrom index before text) [1] found =
      some (index + (text.takeWhile s.contains).length) := by
  induction text generalizing index before found with
  | nil => exact endFrom_fork s _ _ _
  | cons c rest ih =>
    rw [Place.listFrom, endFrom_fork, Option.any_some]
    by_cases hc : s.contains c = true
    · rw [if_pos hc, ih, List.takeWhile_cons_of_pos hc, List.length_cons, Nat.add_right_comm,
        Nat.add_assoc]
    · rw [if_neg hc, List.takeWhile_cons_of_neg hc]
      rfl

/-- A match starts at every character of the set and takes the run that it begins. -/
theorem matchEnd?_run (s : CharSet) (text : Text) (index : Nat) (before : Option Char) :
    (runOf s).matchEnd? (Place.listFrom index before text) =
      if text.head?.any s.contains then some (index + (text.takeWhile s.contains).length) else none := by
  unfold matchEnd?
  cases text with
  | nil => exact endFrom_take s _ _
  | cons c rest =>
    show (runOf s).endFrom (_ :: _) [2] none = _
    rw [endFrom_take, List.head?_cons, Option.any_some]
    by_cases hc : s.contains c = true
    · rw [if_pos hc, endFrom_run, if_pos hc, List.takeWhile_cons_of_pos hc, List.length_cons,
        Nat.add_right_comm, Nat.add_assoc]
    · rw [if_neg hc, if_neg hc]

/-- Places inside of a match are passed over. -/
theorem matchesFrom_append (m : Machine) (passed rest : Text) (index : Nat) (before : Option Char)
    (ended : Option Nat) :
    ∃ before', m.matchesFrom (index + passed.length) ended (Place.listFrom index before (passed ++ rest)) =
      m.matchesFrom (index + passed.length) ended
        (Place.listFrom (index + passed.length) before' rest) := by
  induction passed generalizing index before with
  | nil => exact ⟨before, rfl⟩
  | cons c passed ih =>
    obtain ⟨before', h⟩ := ih (index + 1) (some c)
    have hindex : index + (c :: passed).length = index + 1 + passed.length := by
      rw [List.length_cons]
      omega
    refine ⟨before', ?_⟩
    rw [hindex, ← h, List.cons_append, Place.listFrom, matchesFrom, if_pos]
    show index < index + 1 + passed.length
    omega

/-- Without a character of the set no match starts. -/
theorem matchesFrom_run_neg (s : CharSet) {c : Char} {rest : Text} {index resume : Nat}
    {before : Option Char} {ended : Option Nat} (hresume : resume ≤ index) (hc : s.contains c = false) :
    (runOf s).matchesFrom resume ended (Place.listFrom index before (c :: rest)) =
      (runOf s).matchesFrom resume ended (Place.listFrom (index + 1) (some c) rest) := by
  have hend := matchEnd?_run s (c :: rest) index before
  rw [List.head?_cons, Option.any_some, if_neg (by simp [hc])] at hend
  rw [Place.listFrom, matchesFrom, if_neg (Nat.not_lt.2 hresume)]
  rw [Place.listFrom] at hend
  rw [hend]

/-- A match starts at a character of the set, and the next one is looked for behind the run. -/
theorem matchesFrom_run_pos (s : CharSet) {c : Char} (rest : Text) {index resume : Nat}
    (before : Option Char) (ended : Option Nat) (hresume : resume ≤ index) (hc : s.contains c = true) :
    ∃ k before', k = index + 1 + (rest.takeWhile s.contains).length ∧
      (runOf s).matchesFrom resume ended (Place.listFrom index before (c :: rest)) =
        (index, k) ::
          (runOf s).matchesFrom k (some k) (Place.listFrom k before' (rest.dropWhile s.contains)) := by
  -- The match is the whole run, so no character of it starts another one.
  have hend := matchEnd?_run s (c :: rest) index before
  rw [List.head?_cons, Option.any_some, if_pos hc, List.takeWhile_cons_of_pos hc, List.length_cons,
    Nat.add_comm _ 1, ← Nat.add_assoc] at hend
  obtain ⟨before', hbehind⟩ := matchesFrom_append (runOf s) (rest.takeWhile s.contains)
    (rest.dropWhile s.contains) (index + 1) (some c) (some (index + 1 + (rest.takeWhile s.contains).length))
  rw [List.takeWhile_append_dropWhile] at hbehind
  refine ⟨_, before', rfl, ?_⟩
  rw [← hbehind, Place.listFrom, matchesFrom, if_neg (Nat.not_lt.2 hresume)]
  rw [Place.listFrom] at hend
  rw [hend]
  exact if_neg fun h => by
    have hindex : index + 1 + (rest.takeWhile s.contains).length = index := h.1
    omega

theorem matchesFrom_run_nil (s : CharSet) {index resume : Nat} {before : Option Char}
    {ended : Option Nat} : (runOf s).matchesFrom resume ended (Place.listFrom index before []) = [] := by
  have hend := matchEnd?_run s [] index before
  rw [Place.listFrom] at hend
  rw [Place.listFrom, matchesFrom, hend]
  split
  · rfl
  · rfl

end Machine

namespace Delimiters

/-- The texts of some pieces, without the empty ones. -/
def textsOf (pieces : List Piece) : List Text :=
  (pieces.filter (! ·.text.isEmpty)).map (·.text)

theorem textsOf_cons (p : Piece) (pieces : List Piece) :
    textsOf (p :: pieces) = (if p.text.isEmpty then [] else [p.text]) ++ textsOf pieces := by
  unfold textsOf
  rw [List.filter_cons]
  cases p.text.isEmpty <;> rfl

/-- A slice of a text between what is before and what is after. -/
theorem ofSlice_append (passed current rest : Text) :
    (Piece.ofSlice (passed ++ (current ++ rest)) passed.length current.length).text = current := by
  simp [Piece.ofSlice]

/-- The pieces of a text between the runs of a set, from a position on: `current` are the characters behind the
last match that are passed already. -/
theorem textsOf_piecesAround (s : CharSet) (passed current rest : Text) (before : Option Char)
    (ended : Option Nat) (hcurrent : ∀ c ∈ current, s.contains c = false) :
    textsOf (piecesAround (passed ++ (current ++ rest)) passed.length
      ((Machine.runOf s).matchesFrom passed.length ended
        (Place.listFrom (passed.length + current.length) before rest))) =
      Text.runs s.contains (current ++ rest) := by
  have hbehind : passed.length ≤ passed.length + current.length := Nat.le_add_right _ _
  cases rest with
  | nil =>
    have hlength : (passed ++ (current ++ [])).length - passed.length = current.length := by simp
    rw [Machine.matchesFrom_run_nil, piecesAround, hlength, textsOf_cons, ofSlice_append,
      List.append_nil, Text.runs_of_forall hcurrent]
    exact List.append_nil _
  | cons c tail =>
    by_cases hc : s.contains c = true
    · obtain ⟨k, before', hk, hmatches⟩ :=
        Machine.matchesFrom_run_pos s tail before ended hbehind hc
      -- The run goes to what is passed, and nothing is left over in front of the rest.
      have hrun : passed ++ (current ++ c :: tail) =
          (passed ++ current ++ c :: tail.takeWhile s.contains) ++ ([] ++ tail.dropWhile s.contains) := by
        simp
      have hlength : k = (passed ++ current ++ c :: tail.takeWhile s.contains).length := by
        rw [hk]
        simp
        omega
      have htail := textsOf_piecesAround s (passed ++ current ++ c :: tail.takeWhile s.contains) []
        (tail.dropWhile s.contains) before' (some k) (by simp)
      rw [← hrun, ← hlength, List.length_nil, Nat.add_zero, List.nil_append] at htail
      have hall : ∀ d ∈ tail.takeWhile s.contains, s.contains d = true :=
        fun d hd => List.mem_takeWhile_imp hd
      have hseparators := Text.runs_separators_append hall (tail.dropWhile s.contains)
      rw [List.takeWhile_append_dropWhile] at hseparators
      rw [hmatches, piecesAround, Nat.add_sub_cancel_left, textsOf_cons, ofSlice_append, htail,
        Text.runs_append_cons _ _ hc, Text.runs_of_forall hcurrent, hseparators]
    · rw [Bool.not_eq_true] at hc
      have hnext := textsOf_piecesAround s passed (current ++ [c]) tail (some c) ended (by
        intro d hd
        rcases List.mem_append.1 hd with hd | hd
        · exact hcurrent d hd
        · rwa [List.mem_singleton.1 hd])
      rw [List.length_append, List.length_singleton, ← Nat.add_assoc, List.append_assoc,
        List.singleton_append] at hnext
      rw [Machine.matchesFrom_run_neg s hbehind hc, hnext]
termination_by rest.length
decreasing_by
  · exact Nat.lt_succ_of_le (List.length_dropWhile_le ..)
  · exact Nat.lt_succ_self _

/-- The positions of the matches of a pattern are those that its machine finds. -/
theorem positionsIn_compiled {d : Delimiters} {p : Pattern} (h : d.pattern = p.compiled) (text : Text) :
    d.positionsIn text = p.matchesIn text := by
  rw [positionsIn, h]
  exact ByteSpan.map_positions_ofPositions (p.spaced_matchesIn text)

/-- A delimiter that is a run of characters of one set cuts a text into the runs of the others. -/
theorem texts_pieces {d : Delimiters} {s : CharSet} (h : d.pattern = (Pattern.repeated (.one s) 1 none true).compiled)
    (text : Text) : (d.pieces text).map (·.text) = Text.runs s.contains text := by
  have hpieces := textsOf_piecesAround s [] [] text none none (by simp)
  rw [pieces_eq, positionsIn_compiled h, Pattern.matchesIn, Machine.ofPattern_run]
  exact hpieces

end Delimiters

end TextAnalysis
