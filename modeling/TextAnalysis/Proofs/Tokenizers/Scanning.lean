/-
# Scanning for keys

Without a tolerance, a key tokenizer scans a text from left to right. At each step it takes the occurrence of a key that
starts first, and of several keys that start there the one that was added to the dictionary first. The text before it
and the key are the next pieces, and what follows the last key is the last piece. So every piece is a key or has no key
in it, and of two neighbours one is a key.
-/
import Mathlib.Data.List.Induction
import Mathlib.Data.List.Infix
import TextAnalysis.Proofs.Dictionaries.Keys
import TextAnalysis.Proofs.Tokenizers.Keys

namespace TextAnalysis

/-! ## Keys at a place -/

/-- The first of the keys that occur at a place of a text. -/
def keyAt (keys : List Text) (text : Text) (i : Nat) : Option Text :=
  keys.find? fun key => OccursAt text key i

/-- A key starts at a place where no earlier one in the list does, and no key starts before this place. -/
structure Leftmost (keys : List Text) (text : Text) (start : Nat) (key : Text) : Prop where
  here : keyAt keys text start = some key
  before : ∀ i < start, keyAt keys text i = none

theorem keyAt_eq_none {keys : List Text} {text : Text} {i : Nat} :
    keyAt keys text i = none ↔ ∀ key ∈ keys, ¬ OccursAt text key i := by
  simp [keyAt]

theorem mem_of_keyAt {keys : List Text} {text key : Text} {i : Nat} (h : keyAt keys text i = some key) :
    key ∈ keys ∧ OccursAt text key i :=
  ⟨List.mem_of_find?_eq_some h, by simpa using List.find?_some h⟩

theorem keyAt_concat (keys : List Text) (new text : Text) (i : Nat) :
    keyAt (keys ++ [new]) text i = (keyAt keys text i).or (if OccursAt text new i then some new else none) := by
  unfold keyAt
  rw [List.find?_append, List.find?_singleton]
  simp

namespace Leftmost

variable {keys : List Text} {text key key' : Text} {start start' : Nat}

theorem text_ne_nil (h : Leftmost keys text start key) : text ≠ [] := by
  rintro rfl
  exact not_occursAt_nil key start (mem_of_keyAt h.here).2

theorem not_forall_eq_none (h : Leftmost keys text start key) : ¬ ∀ i, keyAt keys text i = none := by
  intro hnone
  cases (hnone start).symm.trans h.here

theorem le (h : Leftmost keys text start key) (h' : Leftmost keys text start' key') : start ≤ start' := by
  by_contra hlt
  cases (h.before start' (Nat.lt_of_not_le hlt)).symm.trans h'.here

theorem unique (h : Leftmost keys text start key) (h' : Leftmost keys text start' key') :
    start = start' ∧ key = key' := by
  obtain rfl := Nat.le_antisymm (h.le h') (h'.le h)
  exact ⟨rfl, Option.some.inj (h.here.symm.trans h'.here)⟩

/-- One more key is found where it first starts if all others start later. -/
theorem of_new {new : Text} (hoccurs : OccursAt text new start) (hfirst : ∀ j < start, ¬ OccursAt text new j)
    (hkeys : ∀ j ≤ start, keyAt keys text j = none) : Leftmost (keys ++ [new]) text start new := by
  constructor
  · rw [keyAt_concat, hkeys start (Nat.le_refl start), if_pos hoccurs]
    rfl
  · intro j hj
    rw [keyAt_concat, hkeys j (Nat.le_of_lt hj), if_neg (hfirst j hj)]
    rfl

/-- One more key that does not start earlier makes no difference. -/
theorem concat (h : Leftmost keys text start key) {new : Text} (hnew : ∀ j < start, ¬ OccursAt text new j) :
    Leftmost (keys ++ [new]) text start key := by
  constructor
  · rw [keyAt_concat, h.here]
    rfl
  · intro j hj
    rw [keyAt_concat, h.before j hj, if_neg (hnew j hj)]
    rfl

end Leftmost

/-- A text is a key, or there is no key in it. -/
def KeyOrFree (keys : List Text) (text : Text) : Prop :=
  text ∈ keys ∨ ∀ key ∈ keys, key ≠ [] → ¬ key <:+: text

/-- Where no key starts before a place, there is none in the text before it. -/
theorem not_infix_take {keys : List Text} {text : Text} {start : Nat} (h : ∀ i < start, keyAt keys text i = none) :
    ∀ key ∈ keys, key ≠ [] → ¬ key <:+: text.take start := by
  rintro key hkey hne ⟨front, back, hsplit⟩
  have hlength := congrArg List.length hsplit
  rw [List.length_append, List.length_append, List.length_take] at hlength
  have hpos : 0 < key.length := List.length_pos_of_ne_nil hne
  -- A key in the text before the place would start behind what is in front of it there.
  have htext := List.take_append_drop start text
  rw [← hsplit, List.append_assoc, List.append_assoc] at htext
  refine keyAt_eq_none.1 (h front.length (by omega)) key hkey ⟨hne, ?_⟩
  rw [← htext, List.drop_left]
  exact List.prefix_append _ _

/-! ## The scanner -/

/-- How a text is scanned for keys, its first character having a position: it is cut at the key that starts first, and
scanned behind it, until no key is left. -/
inductive Scan (keys : List Text) : Nat → Text → List Piece → Prop
  | done (offset : Nat) : Scan keys offset [] []
  | rest {offset : Nat} {text : Text} (hne : text ≠ []) (hnone : ∀ i, keyAt keys text i = none) :
      Scan keys offset text [⟨text, offset⟩]
  | key {offset start : Nat} {text key : Text} {pieces : List Piece} (hfirst : Leftmost keys text start key)
      (hlater : Scan keys (offset + (start + key.length)) (text.drop (start + key.length)) pieces) :
      Scan keys offset text
        ((if (text.take start).isEmpty then [] else [⟨text.take start, offset⟩]) ++ ⟨key, offset + start⟩ :: pieces)

namespace Scan

variable {keys keys' : List Text} {offset : Nat} {text : Text} {pieces pieces' : List Piece}

/-- There is only one way to scan a text. -/
theorem unique (h : Scan keys offset text pieces) (h' : Scan keys offset text pieces') : pieces = pieces' := by
  induction h generalizing pieces' with
  | done offset =>
    cases h' with
    | done => rfl
    | rest hne => exact absurd rfl hne
    | key hfirst => exact absurd rfl hfirst.text_ne_nil
  | rest hne hnone =>
    cases h' with
    | done => exact absurd rfl hne
    | rest => rfl
    | key hfirst => exact absurd hnone hfirst.not_forall_eq_none
  | key hfirst _ ih =>
    cases h' with
    | done => exact absurd rfl hfirst.text_ne_nil
    | rest _ hnone => exact absurd hnone hfirst.not_forall_eq_none
    | key hfirst' hlater' =>
      -- Both scans are cut at the same key, so they go on with the same rest.
      obtain ⟨rfl, rfl⟩ := hfirst.unique hfirst'
      rw [ih hlater']

/-- Only the first key at every place matters. -/
theorem congr (hkeys : ∀ text i, keyAt keys text i = keyAt keys' text i) (h : Scan keys offset text pieces) :
    Scan keys' offset text pieces := by
  induction h with
  | done offset => exact .done offset
  | rest hne hnone => exact .rest hne fun i => (hkeys _ i).symm.trans (hnone i)
  | key hfirst _ ih =>
    exact .key ⟨(hkeys _ _).symm.trans hfirst.here, fun i hi => (hkeys _ i).symm.trans (hfirst.before i hi)⟩ ih

/-- Every piece is a key or has no key in it. -/
theorem keyOrFree (h : Scan keys offset text pieces) : ∀ p ∈ pieces, KeyOrFree keys p.text := by
  induction h with
  | done => simp
  | @rest offset text hne hnone =>
    have hfree : ∀ key ∈ keys, key ≠ [] → ¬ key <:+: text.take text.length := not_infix_take fun i _ => hnone i
    rw [List.take_length] at hfree
    exact List.forall_mem_singleton.2 (.inr hfree)
  | @key offset start text key pieces hfirst _ ih =>
    refine List.forall_mem_append.2 ⟨?_, List.forall_mem_cons.2 ⟨.inl (mem_of_keyAt hfirst.here).1, ih⟩⟩
    split
    · simp
    · exact List.forall_mem_singleton.2 (.inr (not_infix_take hfirst.before))

/-- Of two neighbours one is a key. -/
theorem isChain (h : Scan keys offset text pieces) :
    pieces.IsChain fun p q => p.text ∈ keys ∨ q.text ∈ keys := by
  induction h with
  | done => exact .nil
  | rest => exact .singleton _
  | @key offset start text key pieces hfirst _ ih =>
    have hkey : key ∈ keys := (mem_of_keyAt hfirst.here).1
    have hlater : (⟨key, offset + start⟩ :: pieces : List Piece).IsChain fun p q => p.text ∈ keys ∨ q.text ∈ keys := by
      cases pieces with
      | nil => exact .singleton _
      | cons p pieces => exact .cons_cons (.inl hkey) ih
    split
    · exact hlater
    · exact .cons_cons (.inr hkey) hlater

end Scan

/-! ## What the tokenizer finds -/

namespace KeyTokenizer

/-- What is found of some keys: the one that starts first, if there is any. -/
def Finds (keys : List Text) (text : Text) : Option Span → Prop
  | none => ∀ i, keyAt keys text i = none
  | some s => ∃ key, Leftmost keys text s.start key ∧ s.length = key.length

/-- With one more key, its first occurrence is what is found if it starts before what was found so far. -/
theorem Finds.concat {keys : List Text} {text : Text} {best : Option Span} (h : Finds keys text best) {new : Text}
    (hnew : new ≠ []) : Finds (keys ++ [new]) text (earlier best (findExact new 0 text)) := by
  rcases findExact_cases hnew 0 text with ⟨i, hfound, hoccurs, hfirst⟩ | ⟨hfound, hnone⟩
  · rw [hfound, Nat.zero_add]
    cases best with
    | none => exact ⟨new, .of_new hoccurs hfirst fun j _ => h j, rfl⟩
    | some s =>
      obtain ⟨key, hleftmost, hlength⟩ := h
      by_cases hlt : i < s.start
      · -- Up to its start there is none of the keys so far, so the new one is the first there.
        rw [earlier, if_pos hlt]
        exact ⟨new, .of_new hoccurs hfirst fun j hj => hleftmost.before j (Nat.lt_of_le_of_lt hj hlt), rfl⟩
      · rw [earlier, if_neg hlt]
        exact ⟨key, hleftmost.concat fun j hj => hfirst j (by omega), hlength⟩
  · rw [hfound]
    cases best with
    | none =>
      intro j
      rw [keyAt_concat, h j, if_neg (hnone j)]
      rfl
    | some s =>
      obtain ⟨key, hleftmost, hlength⟩ := h
      exact ⟨key, hleftmost.concat fun j _ => hnone j, hlength⟩

/-- Without a tolerance, the exact occurrences of all keys are compared. -/
theorem closest_eq {k : KeyTokenizer} (hexact : k.tolerance = none) (text : Text) :
    k.closest text = .ok (k.keys.foldl (fun best key => earlier best (findExact key 0 text)) none) := by
  unfold closest find
  rw [hexact]
  exact List.foldlM_pure

theorem exists_closest {k : KeyTokenizer} (hexact : k.tolerance = none) (text : Text) :
    ∃ found, k.closest text = .ok found ∧ Finds k.keys text found := by
  have hfold : ∀ keys : List Text, (∀ key ∈ keys, key ≠ []) →
      Finds keys text (keys.foldl (fun best key => earlier best (findExact key 0 text)) none) := by
    intro keys
    induction keys using List.reverseRecOn with
    | nil => exact fun _ _ => rfl
    | append_singleton keys new ih =>
      intro hkeys
      obtain ⟨hold, hnew⟩ := List.forall_mem_append.1 hkeys
      rw [List.foldl_concat]
      exact (ih hold).concat (hnew new (List.mem_singleton.2 rfl))
  exact ⟨_, closest_eq hexact text, hfold k.keys k.nonempty⟩

/-- Without a tolerance, a text is cut as it is scanned. -/
theorem exists_cut {k : KeyTokenizer} (hexact : k.tolerance = none) {steps : Nat} (offset : Nat) {rest : Text}
    (hsteps : rest.length ≤ steps) :
    ∃ pieces, k.cut steps offset rest = .ok pieces ∧ Scan k.keys offset rest pieces := by
  induction steps generalizing offset rest with
  | zero =>
    rw [List.eq_nil_of_length_eq_zero (Nat.le_zero.1 hsteps)]
    exact ⟨[], rfl, .done offset⟩
  | succ steps ih =>
    unfold cut
    by_cases hempty : rest = []
    · rw [hempty]
      exact ⟨[], rfl, .done offset⟩
    · rw [if_neg (by simpa using hempty)]
      obtain ⟨found, hfound, hfinds⟩ := exists_closest hexact rest
      rw [hfound, ok_bind]
      cases found with
      | none => exact ⟨_, rfl, .rest hempty hfinds⟩
      | some s =>
        obtain ⟨key, hleftmost, hlength⟩ := hfinds
        -- The key takes at least one character, so the steps that are left last for the rest.
        obtain ⟨hpos, -⟩ := fits_closest hfound
        have hshorter : (rest.drop (s.start + s.length)).length ≤ steps := by
          rw [List.length_drop]
          omega
        obtain ⟨later, hlater, hscan⟩ := ih (offset + (s.start + s.length)) hshorter
        have hhere : (rest.drop s.start).take s.length = key := by
          rw [hlength]
          exact (List.prefix_iff_eq_take.1 (mem_of_keyAt hleftmost.here).2.2).symm
        dsimp only
        rw [hlater, ok_bind, hhere]
        rw [hlength] at hscan
        exact ⟨_, rfl, .key hleftmost hscan⟩

/-- The first key of a tokenizer at a place is the one that was added to the dictionary first. -/
theorem keyAt_ofDictionary {α : Type} (es : List (Entry α)) (text : Text) (i : Nat) :
    keyAt (ofDictionary (Dictionary.ofList es)).keys text i = keyAt (es.map (·.key)) text i := by
  unfold keyAt
  rw [← Dictionary.find?_keys_ofList]
  show (List.filter _ _).find? _ = _
  rw [List.find?_filter]
  refine congrArg (List.find? · _) (funext fun key => decide_eq_decide.2 ?_)
  rw [decide_eq_true_eq]
  exact and_iff_right_of_imp fun h => by simpa using h.1

/-! ## The loop over positions -/

/-- The search for a key in a text from a position on, up to the last position at which the key fits into the text. -/
def searchFrom (key text : Text) (start : Nat) : Option Span :=
  if text.length < key.length then none
  else
    let positions := List.range' start (text.length - key.length + 1 - start)
    (positions.find? fun i => (text.drop i).take key.length == key).map fun i => ⟨i, key.length, .one⟩

/-- The occurrence of a key that starts first from a position on, and before it that of a key that comes first. -/
def closestFrom (keys : List Text) (text : Text) (start : Nat) : Option Span :=
  keys.foldl (fun best key => earlier best (searchFrom key text start)) none

/-- The loop over the positions of a text: what is left between the current position and the next key is a piece, then
the key, behind which the loop goes on. -/
def loop (keys : List Text) (text : Text) : Nat → Nat → List Piece
  | 0, _ => []
  | steps + 1, current =>
    if current < text.length then
      match closestFrom keys text current with
      | none => [⟨text.drop current, current⟩]
      | some found =>
        let finish := found.start + found.length
        let later := loop keys text steps finish
        let here : Piece := ⟨(text.drop found.start).take found.length, found.start⟩
        if current < found.start then ⟨(text.drop current).take (found.start - current), current⟩ :: here :: later
        else here :: later
    else []

/-- A span of the rest of a text as one of the text. -/
def shift (n : Nat) (s : Span) : Span :=
  { s with start := n + s.start }

theorem occursAt_drop {key : Text} (hkey : key ≠ []) (text : Text) {start i : Nat} (hle : start ≤ i) :
    OccursAt (text.drop start) key (i - start) ↔ ((text.drop i).take key.length == key) = true := by
  rw [occursAt_drop_iff, Nat.add_sub_cancel' hle, OccursAt, and_iff_right hkey, List.prefix_iff_eq_take, beq_iff_eq,
    eq_comm]

/-- The search by positions finds the first occurrence in the rest of a text. -/
theorem searchFrom_eq {key : Text} (hkey : key ≠ []) (text : Text) (start : Nat) :
    searchFrom key text start = findExact key start (text.drop start) := by
  -- Where the key does not fit into the rest any more it cannot occur, so the bound of the search loses nothing.
  have hpos := List.length_pos_of_ne_nil hkey
  have hmiss : ∀ i, start ≤ i → ¬ OccursAt (text.drop start) key (i - start) →
      (!((text.drop i).take key.length == key)) = true := by
    intro i hle hi
    rw [occursAt_drop hkey text hle] at hi
    rwa [Bool.not_eq_true', ← Bool.not_eq_true]
  unfold searchFrom
  rcases findExact_cases hkey start (text.drop start) with ⟨i, hfound, hi, hfirst⟩ | ⟨hfound, hnone⟩
  · have hbound := hi.2.length_le
    rw [List.length_drop, List.length_drop] at hbound
    have hhere : ((text.drop (start + i)).take key.length == key) = true := by
      rwa [← occursAt_drop hkey text (Nat.le_add_right start i), Nat.add_sub_cancel_left]
    have hfind : (List.range' start (text.length - key.length + 1 - start)).find?
        (fun i => (text.drop i).take key.length == key) = some (start + i) :=
      List.find?_range'_eq_some.2 ⟨hhere, List.mem_range'_1.2 (by omega), fun j hle hlt =>
        hmiss j hle (hfirst (j - start) (by omega))⟩
    rw [hfound, if_neg (by omega)]
    dsimp only
    rw [hfind]
    rfl
  · have hfind : (List.range' start (text.length - key.length + 1 - start)).find?
        (fun i => (text.drop i).take key.length == key) = none :=
      List.find?_range'_eq_none.2 fun j hle _ => hmiss j hle (hnone (j - start))
    rw [hfound]
    split
    · rfl
    · dsimp only
      rw [hfind]
      rfl

theorem findExact_add (key : Text) (n start : Nat) (text : Text) :
    findExact key (n + start) text = (findExact key start text).map (shift n) := by
  induction text generalizing start with
  | nil =>
    rw [findExact, findExact]
    split <;> rfl
  | cons c rest ih =>
    rw [findExact, findExact]
    split
    · rfl
    · exact ih (start + 1)

theorem earlier_shift (n : Nat) (a b : Option Span) :
    earlier (a.map (shift n)) (b.map (shift n)) = (earlier a b).map (shift n) := by
  cases a with
  | none => rfl
  | some a =>
    cases b with
    | none => rfl
    | some b =>
      by_cases h : b.start < a.start
      · have hshift : (shift n b).start < (shift n a).start := Nat.add_lt_add_left h n
        simp [earlier, h, hshift]
      · have hshift : ¬ (shift n b).start < (shift n a).start := fun hlt => h (Nat.lt_of_add_lt_add_left hlt)
        simp [earlier, h, hshift]

theorem closestFrom_eq {keys : List Text} (hkeys : ∀ key ∈ keys, key ≠ []) (text : Text) (start : Nat) :
    closestFrom keys text start =
      (keys.foldl (fun best key => earlier best (findExact key 0 (text.drop start))) none).map (shift start) := by
  unfold closestFrom
  induction keys using List.reverseRecOn with
  | nil => rfl
  | append_singleton keys new ih =>
    obtain ⟨hold, hnew⟩ := List.forall_mem_append.1 hkeys
    rw [List.foldl_concat, List.foldl_concat, ih hold, searchFrom_eq (hnew new (List.mem_singleton.2 rfl)),
      ← earlier_shift, ← findExact_add, Nat.add_zero]

/-- Cutting the rest of a text yields the pieces of the loop over its positions. -/
theorem cut_eq_loop {k : KeyTokenizer} (hexact : k.tolerance = none) (text : Text) (steps current : Nat) :
    k.cut steps current (text.drop current) = .ok (loop k.keys text steps current) := by
  induction steps generalizing current with
  | zero => rfl
  | succ steps ih =>
    unfold cut loop
    by_cases hcurrent : current < text.length
    · have hrest : ¬ (text.drop current).isEmpty = true := by
        rw [List.isEmpty_iff, List.drop_eq_nil_iff]
        omega
      rw [if_pos hcurrent, if_neg hrest, closest_eq hexact, ok_bind, closestFrom_eq k.nonempty]
      cases hfound : k.keys.foldl (fun best key => earlier best (findExact key 0 (text.drop current))) none with
      | none => rfl
      | some found =>
        -- The next round goes on behind what was found, at a position of the whole text.
        have hlater : k.cut steps (current + (found.start + found.length))
            ((text.drop current).drop (found.start + found.length)) =
              .ok (loop k.keys text steps (current + found.start + found.length)) := by
          rw [List.drop_drop, ih, Nat.add_assoc]
        have hbefore : ((text.drop current).take found.start).isEmpty = true ↔ ¬ current < current + found.start := by
          rw [List.isEmpty_iff, List.take_eq_nil_iff, List.drop_eq_nil_iff]
          omega
        dsimp only [Option.map_some, shift]
        rw [hlater, ok_bind, List.drop_drop, Nat.add_sub_cancel_left]
        by_cases hstart : current < current + found.start
        · rw [if_pos hstart, if_neg fun h => hbefore.1 h hstart]
          rfl
        · rw [if_neg hstart, if_pos (hbefore.2 hstart)]
          rfl
    · have hrest : (text.drop current).isEmpty = true := by
        rw [List.isEmpty_iff, List.drop_eq_nil_iff]
        omega
      rw [if_neg hcurrent, if_pos hrest]

/-! ## Cutting as scanning -/

/-- **Scanning for keys.** Whatever entries a dictionary is made of, also several with one key, there is one way to scan
a text for their keys in the order of their addition, and the fragments around these keys are, put in order, the pieces
that it yields. The loop over the positions of the text yields them too, in as many rounds as the text has characters
and in more. Every fragment is a key or has no key in it, and of two neighbours one is a key. -/
theorem tokenize_scan {α : Type} (es : List (Entry α)) (text : Text) :
    ∃ pieces tokens, (∀ pieces', Scan (es.map (·.key)) 0 text pieces' ↔ pieces' = pieces) ∧
      (ofDictionary (.ofList es)).tokenize text = .ok tokens ∧ Fragment.gather pieces = .ok tokens ∧
      Fragment.inOrder tokens = pieces ∧
      (∀ steps, text.length ≤ steps → loop (ofDictionary (.ofList es)).keys text steps 0 = pieces) ∧
      (∀ t ∈ tokens, KeyOrFree (es.map (·.key)) t.text) ∧
      pieces.IsChain fun p q => p.text ∈ es.map (·.key) ∨ q.text ∈ es.map (·.key) := by
  have hexact : (ofDictionary (.ofList es)).tolerance = none := rfl
  obtain ⟨pieces, hcut, hscan⟩ := exists_cut hexact 0 (Nat.le_refl text.length)
  -- The pieces tile the text, so none is empty and they are in order already.
  have htiles : Tiles 0 text pieces := tiles_cut (Nat.le_refl _) hcut
  replace hscan := hscan.congr (keyAt_ofDictionary es)
  obtain ⟨tokens, hgather, hstands⟩ := Fragment.exists_gather htiles.text_ne_nil
  refine ⟨pieces, tokens, fun pieces' => ⟨fun h => h.unique hscan, ?_⟩, ?_, hgather, ?_, fun steps hsteps => ?_,
    fun t ht => ?_, hscan.isChain⟩
  · rintro rfl
    exact hscan
  · unfold tokenize
    rw [hcut]
    exact hgather
  · exact Fragment.inOrder_eq hstands htiles.ascending.1
  · have hloop := cut_eq_loop hexact text steps 0
    rw [List.drop_zero, cut_eq hsteps (Nat.le_refl _), hcut] at hloop
    exact (Except.ok.inj hloop).symm
  · obtain ⟨x, hx⟩ := Fragment.exists_position_of_gather hgather t ht
    exact hscan.keyOrFree _ ((hstands ⟨t.text, x⟩).1 ⟨t, ht, rfl, hx⟩)

/-- Keys of which one is the beginning of a later one, one is empty, and one is added again. -/
def overlapping : List (Entry Unit) :=
  ["twenty", "on", "one", "", "twenty"].map fun key => ⟨key.toList, (), none⟩

/-- The longer of two keys that start together is not found if it was added later, and what is left between two keys has
no key in it. -/
theorem tokenize_scan_overlapping :
    ∃ pieces tokens, pieces = [⟨"twenty".toList, 0⟩, ⟨"on".toList, 6⟩, ⟨"eand".toList, 8⟩, ⟨"on".toList, 12⟩,
        ⟨"e".toList, 14⟩] ∧
      Scan (overlapping.map (·.key)) 0 "twentyoneandone".toList pieces ∧
      (ofDictionary (.ofList overlapping)).tokenize "twentyoneandone".toList = .ok tokens ∧
      Fragment.inOrder tokens = pieces ∧
      (∃ t ∈ tokens, t.text = "eand".toList) ∧ KeyOrFree (overlapping.map (·.key)) "eand".toList := by
  obtain ⟨pieces, tokens, hscan, htokens, -, horder, hloop, hfree, -⟩ :=
    tokenize_scan overlapping "twentyoneandone".toList
  have hpieces : loop (ofDictionary (.ofList overlapping)).keys "twentyoneandone".toList 15 0 =
      [⟨"twenty".toList, 0⟩, ⟨"on".toList, 6⟩, ⟨"eand".toList, 8⟩, ⟨"on".toList, 12⟩, ⟨"e".toList, 14⟩] := by
    decide +kernel
  have htexts : ((ofDictionary (.ofList overlapping)).tokenize "twentyoneandone".toList).map (·.map (·.text)) =
      .ok ["twenty".toList, "on".toList, "eand".toList, "e".toList] := by
    decide +kernel
  rw [htokens] at htexts
  have hmem : "eand".toList ∈ tokens.map (·.text) := by simp [Except.ok.inj htexts]
  obtain ⟨t, ht, htext⟩ := List.mem_map.1 hmem
  exact ⟨pieces, tokens, (hloop 15 (by decide)).symm.trans hpieces, (hscan pieces).2 rfl, htokens, horder,
    ⟨t, ht, htext⟩, htext ▸ hfree t ht⟩

end KeyTokenizer

end TextAnalysis
