/-
# Enumerated occurrences

Tokenizers that take the pieces of a text at places of their own choice, the proper substrings and the n-grams, have one
token for every text that they take, and it stands exactly at the places where this text was taken. Cut step by step, no
piece reaches beyond the text, no difference is below zero and no sum is greater than the length of the text.
-/
import TextAnalysis.Proofs.Metric.Dice
import TextAnalysis.Proofs.Tokenizers.Collecting

namespace TextAnalysis

variable {α : Type} [Token α]

/-! ## Occurrences -/

/-- Different tokens that are pieces of a text where they stand. Each of them stands somewhere, and together they have
an occurrence of a length at a position exactly if `places` has it. -/
structure Enumerates (text : Text) (tokens : List α) (places : Nat → Nat → Prop) : Prop where
  nodup : (tokens.map Token.text).Nodup
  placed : ∀ t ∈ tokens, ∃ i, i ∈ Token.positions t
  occurs_iff : ∀ i n, (∃ t ∈ tokens, i ∈ Token.positions t ∧ (Token.text t).length = n) ↔ places i n
  slice : ∀ t ∈ tokens, ∀ i ∈ Token.positions t, (text.drop i).take (Token.text t).length = Token.text t

namespace Enumerates

variable {text : Text} {places places' : Nat → Nat → Prop}

theorem congr {tokens : List α} (h : Enumerates text tokens places) (hplaces : ∀ i n, places i n ↔ places' i n) :
    Enumerates text tokens places' :=
  { h with occurs_iff := fun i n => (h.occurs_iff i n).trans (hplaces i n) }

/-- Tokens have the occurrences of those that they are made into, if texts and positions stay the same. -/
theorem of_map {β : Type} [Token β] {f : α → β} (htext : ∀ t, Token.text (f t) = Token.text t)
    (hpositions : ∀ t, Token.positions (f t) = Token.positions t) {tokens : List α}
    (h : Enumerates text (tokens.map f) places) : Enumerates text tokens places := by
  have hmem : ∀ t ∈ tokens, f t ∈ tokens.map f := fun t ht => List.mem_map_of_mem ht
  refine ⟨?_, fun t ht => ?_, fun i n => ?_, fun t ht i hi => ?_⟩
  · have htexts : (tokens.map f).map Token.text = tokens.map Token.text := by
      rw [List.map_map]
      exact List.map_congr_left fun t _ => htext t
    rw [← htexts]
    exact h.nodup
  · rw [← hpositions]
    exact h.placed _ (hmem t ht)
  · rw [← h.occurs_iff i n]
    simp only [List.mem_map, exists_exists_and_eq_and, htext, hpositions]
  · rw [← htext]
    exact h.slice _ (hmem t ht) i ((hpositions t).symm ▸ hi)

end Enumerates

/-- Fragments gathered from pieces of a text have the occurrences of these pieces. -/
theorem Fragment.enumerates_of_gather {text : Text} {pieces : List Piece} {tokens : List Fragment}
    (hne : ∀ p ∈ pieces, p.text ≠ []) (hslice : ∀ p ∈ pieces, (text.drop p.position).take p.text.length = p.text)
    (h : gather pieces = .ok tokens) :
    Enumerates text tokens fun i n => ∃ p ∈ pieces, p.position = i ∧ p.text.length = n := by
  have hstands := stands_of_gather hne h
  refine ⟨nodup_gather h, exists_position_of_gather h, fun i n => ⟨?_, ?_⟩, fun t ht i hi => ?_⟩
  · rintro ⟨t, ht, hi, rfl⟩
    exact ⟨⟨t.text, i⟩, (hstands _).1 ⟨t, ht, rfl, hi⟩, rfl, rfl⟩
  · rintro ⟨p, hp, rfl, rfl⟩
    obtain ⟨t, ht, htext, hi⟩ := (hstands p).2 hp
    exact ⟨t, ht, hi, congrArg List.length htext⟩
  · exact hslice ⟨t.text, i⟩ ((hstands _).1 ⟨t, ht, rfl, hi⟩)

/-! ## N-grams as fragments -/

namespace Gram

theorem map_fragment_makeAt {p : Piece} (h : p.text ≠ []) :
    (makeAt p.text.length p.text p.position).map (·.fragment) = Fragment.makeAt p.text p.position := by
  unfold makeAt
  rw [dif_pos (List.length_pos_of_ne_nil h), map_map_eq]
  cases Fragment.makeAt p.text p.position with
  | error e => rfl
  | ok t => rfl

/-- An n-gram has the degree with which it is made. -/
theorem degree_eq_of_makeAt {degree position : Nat} {text : Text} {t : Gram} (h : makeAt degree text position = .ok t) :
    t.degree = degree := by
  unfold makeAt at h
  split at h
  · obtain ⟨fragment, -, rfl⟩ := map_eq_ok.1 h
    rfl
  · cases h

/-- N-grams of pieces that are not empty are gathered like fragments, each with its length as degree. -/
theorem exists_gather {pieces : List Piece} (hne : ∀ p ∈ pieces, p.text ≠ []) :
    ∃ tokens, gather pieces = .ok tokens ∧ Fragment.gather pieces = .ok (tokens.map (·.fragment)) ∧
      ∀ t ∈ tokens, t.degree = t.fragment.text.length := by
  obtain ⟨tokens, htokens⟩ : ∃ tokens, gather pieces = .ok tokens :=
    TextAnalysis.exists_gather fun p hp => exists_makeAt (hne p hp)
  have hfragments : Fragment.gather pieces = (gather pieces).map (List.map Gram.fragment) :=
    gather_map (f := Gram.fragment) (fun _ => rfl) (fun _ _ => rfl) fun p hp => (map_fragment_makeAt (hne p hp)).symm
  refine ⟨tokens, htokens, by rw [hfragments, htokens]; rfl, ?_⟩
  refine forall_mem_of_gather (P := fun t : Gram => t.degree = t.fragment.text.length) (fun _ _ h => h) ?_ htokens
  intro p _ t ht
  have htext : t.fragment.text = p.text := makeAt_eq_ok ht
  rw [degree_eq_of_makeAt ht, htext]

end Gram

/-! ## Cutting step by step -/

namespace Collector

/-- A difference, which must not be below zero. -/
def subtract (x y : Nat) : Except CutFault Nat :=
  if y ≤ x then .ok (x - y) else .error .negative

/-- The characters of a text from one place to another one. -/
def slice (text : Text) (start finish : Nat) : Except CutFault Text :=
  if start ≤ finish ∧ finish ≤ text.length then .ok ((text.drop start).take (finish - start)) else .error .outOfBounds

/-- Adds what a text has at a place. Words are known to hold the length of the text, and no more. -/
def addSlice (make : Piece → Except Error α) (text : Text) (start length : Nat) (c : Collector α) :
    Except CutFault (Collector α) := do
  let finish ← sumUpTo text.length start length
  let piece ← slice text start finish
  c.add make ⟨piece, start⟩

theorem addSlice_eq (make : Piece → Except Error α) {text : Text} {start length : Nat}
    (h : start + length ≤ text.length) (c : Collector α) :
    c.addSlice make text start length = c.add make (Piece.ofSlice text start length) := by
  unfold addSlice slice
  rw [sumUpTo_eq h, ok_bind, if_pos ⟨Nat.le_add_right .., h⟩, ok_bind, Nat.add_sub_cancel_left]
  rfl

end Collector

namespace LengthRange

open Collector (subtract)

/-- Adds the pieces of a text with `n` characters. -/
def addPiecesOfLength (text : Text) (c : Collector Fragment) (n : Nat) : Except CutFault (Collector Fragment) := do
  let last ← subtract text.length n
  (List.range (last + 1)).foldlM (fun c i => c.addSlice (fun p => Fragment.makeAt p.text p.position) text i n) c

/-- The proper substrings of a text, cut one after the other. -/
def substringsInPlace (r : LengthRange) (text : Text) : Except CutFault (List Fragment) := do
  let found ← (r.below text.length).foldlM (addPiecesOfLength text) .empty
  return found.tokens

/-- Adds `n` characters of a text as an n-gram of degree `n`. -/
def addGram (text : Text) (i n : Nat) (c : Collector Gram) : Except CutFault (Collector Gram) :=
  c.addSlice (fun p => Gram.makeAt n p.text p.position) text i n

/-- Adds the n-gram at a place behind the start. -/
def addGramAfterStart (r : LengthRange) (text : Text) (c : Collector Gram) (i : Nat) :
    Except CutFault (Collector Gram) := do
  let rest ← subtract text.length i
  addGram text i (min r.greatest rest) c

/-- The n-grams of a text, cut one after the other, each with the length under which it is cut as degree. -/
def gramsInPlace (r : LengthRange) (text : Text) : Except CutFault (List Gram) := do
  let atStart ← (r.below text.length).foldlM (fun c n => addGram text 0 n c) .empty
  let found ← (List.range' 1 (text.length - r.least)).foldlM (r.addGramAfterStart text) atStart
  return found.tokens

theorem addPiecesOfLength_eq {text : Text} {n : Nat} (h : n ≤ text.length) (c : Collector Fragment) :
    addPiecesOfLength text c n =
      (piecesOfLength text n).foldlM (Collector.add fun p => Fragment.makeAt p.text p.position) c := by
  unfold addPiecesOfLength subtract
  rw [if_pos h, ok_bind]
  refine foldlM_eq_map (fun i hi c => ?_) c
  have hi := List.mem_range.1 hi
  exact Collector.addSlice_eq _ (by omega) c

/-- Cut step by step, the proper substrings are the same. -/
theorem substringsInPlace_eq {r : LengthRange} {text : Text} {tokens : List Fragment}
    (h : r.substrings text = .ok tokens) : r.substringsInPlace text = .ok tokens := by
  obtain ⟨last, hlast, htokens, -⟩ := Collector.exists_foldlM_add (fun _ _ => rfl)
    (fun _ _ ht => (Fragment.makeAt_eq_ok ht).1) Collector.indexed_empty h
  have hloop : (r.below text.length).foldlM (addPiecesOfLength text) .empty = .ok last := by
    refine (foldlM_eq_flatMap (fun n hn c => ?_) _).trans hlast
    exact addPiecesOfLength_eq (Nat.le_of_lt (bounds_of_mem_below hn).2) c
  unfold substringsInPlace
  rw [hloop, ok_bind, htokens]
  rfl

theorem addGram_eq {text : Text} {i n : Nat} (h : i + n ≤ text.length) (c : Collector Gram) :
    addGram text i n c =
      c.add (fun p => Gram.makeAt p.text.length p.text p.position) (Piece.ofSlice text i n) := by
  rw [addGram, Collector.addSlice_eq _ h, Collector.add, Collector.add, Piece.length_ofSlice h]

theorem addGramAfterStart_eq (r : LengthRange) {text : Text} {i : Nat} (h : i ≤ text.length) (c : Collector Gram) :
    r.addGramAfterStart text c i = c.add (fun p => Gram.makeAt p.text.length p.text p.position)
      (Piece.ofSlice text i (min r.greatest (text.length - i))) := by
  unfold addGramAfterStart subtract
  rw [if_pos h, ok_bind]
  exact addGram_eq (by omega) c

/-- Cut step by step, the n-grams are the same. -/
theorem gramsInPlace_eq {r : LengthRange} {text : Text} {tokens : List Gram} (h : r.grams text = .ok tokens) :
    r.gramsInPlace text = .ok tokens := by
  obtain ⟨last, hlast, htokens, -⟩ := Collector.exists_foldlM_add (fun _ _ => rfl)
    (fun _ _ ht => Gram.makeAt_eq_ok ht) Collector.indexed_empty h
  rw [List.foldlM_append] at hlast
  obtain ⟨atStart, hatStart, hlast⟩ := bind_eq_ok.1 hlast
  have hstart : (r.below text.length).foldlM (fun c n => addGram text 0 n c) .empty = .ok atStart := by
    refine (foldlM_eq_map (fun n hn c => ?_) _).trans hatStart
    have hn := bounds_of_mem_below hn
    exact addGram_eq (by omega) c
  have hafter : (List.range' 1 (text.length - r.least)).foldlM (r.addGramAfterStart text) atStart = .ok last := by
    refine (foldlM_eq_map (fun i hi c => ?_) _).trans hlast
    have hi := List.mem_range'_1.1 hi
    exact r.addGramAfterStart_eq (by omega) c
  unfold gramsInPlace
  rw [hstart, ok_bind, hafter, ok_bind, htokens]
  rfl

/-! ## Which places -/

section

variable {r : LengthRange} {text : Text} {p : Piece}

theorem mem_flatMap_piecesOfLength_iff : p ∈ (r.below text.length).flatMap (piecesOfLength text) ↔
    ∃ n ∈ r.below text.length, ∃ i ≤ text.length - n, Piece.ofSlice text i n = p := by
  simp only [List.mem_flatMap, piecesOfLength, List.mem_map, List.mem_range, Nat.lt_succ_iff]

theorem mem_gramsAtStart_iff : p ∈ r.gramsAtStart text ↔ ∃ n ∈ r.below text.length, Piece.ofSlice text 0 n = p :=
  List.mem_map

theorem mem_gramsAfterStart_iff : p ∈ r.gramsAfterStart text ↔
    ∃ i, (1 ≤ i ∧ i ≤ text.length - r.least) ∧ Piece.ofSlice text i (min r.greatest (text.length - i)) = p := by
  simp only [gramsAfterStart, List.mem_map, List.mem_range'_1, Nat.add_comm 1, Nat.lt_succ_iff]

end

/-- Every n-gram is what the text has at its position. -/
theorem slice_of_mem_grams {r : LengthRange} {text : Text} {p : Piece}
    (h : p ∈ r.gramsAtStart text ++ r.gramsAfterStart text) : (text.drop p.position).take p.text.length = p.text := by
  rcases List.mem_append.1 h with h | h
  · obtain ⟨n, -, rfl⟩ := mem_gramsAtStart_iff.1 h
    exact Piece.slice_ofSlice text 0 n
  · obtain ⟨i, -, rfl⟩ := mem_gramsAfterStart_iff.1 h
    exact Piece.slice_ofSlice text i _

theorem exists_enumeratedSubstrings (r : LengthRange) (text : Text) :
    ∃ tokens, r.substrings text = .ok tokens ∧ Enumerates text tokens fun i n =>
      r.least ≤ n ∧ n ≤ min r.greatest (text.length - 1) ∧ i ≤ text.length - n := by
  obtain ⟨tokens, htokens, -⟩ := exists_substrings r text
  refine ⟨tokens, htokens, (Fragment.enumerates_of_gather ?_ ?_ htokens).congr fun i n => ?_⟩
  · intro p hp
    obtain ⟨n, hn, i, hi, rfl⟩ := mem_flatMap_piecesOfLength_iff.1 hp
    have hn := bounds_of_mem_below hn
    exact Piece.text_ofSlice_ne_nil (by omega) hn.1
  · intro p hp
    obtain ⟨n, -, i, -, rfl⟩ := mem_flatMap_piecesOfLength_iff.1 hp
    exact Piece.slice_ofSlice text i n
  · have hleast := r.least_pos
    constructor
    · rintro ⟨p, hp, rfl, rfl⟩
      obtain ⟨n, hn, i, hi, rfl⟩ := mem_flatMap_piecesOfLength_iff.1 hp
      have hn := mem_below_iff.1 hn
      rw [Piece.length_ofSlice (by omega)]
      exact ⟨hn.1, by omega, hi⟩
    · rintro ⟨hn, hn', hi⟩
      refine ⟨Piece.ofSlice text i n, mem_flatMap_piecesOfLength_iff.2 ⟨n, mem_below_iff.2 (by omega), i, hi, rfl⟩, rfl, ?_⟩
      exact Piece.length_ofSlice (by omega)

theorem exists_enumeratedGrams (r : LengthRange) (text : Text) :
    ∃ tokens, r.grams text = .ok tokens ∧ (∀ t ∈ tokens, t.degree = t.fragment.text.length) ∧
      Enumerates text tokens fun i n =>
        (i = 0 ∧ r.least ≤ n ∧ n ≤ min r.greatest (text.length - 1)) ∨
        (1 ≤ i ∧ i ≤ text.length - r.least ∧ n = min r.greatest (text.length - i)) := by
  obtain ⟨tokens, htokens, hfragments, hdegree⟩ := Gram.exists_gather fun p hp => text_ne_nil_of_mem_grams hp
  refine ⟨tokens, htokens, hdegree, .of_map (f := Gram.fragment) (fun _ => rfl) (fun _ => rfl) ?_⟩
  refine (Fragment.enumerates_of_gather (fun p hp => text_ne_nil_of_mem_grams hp) (fun p hp => slice_of_mem_grams hp)
    hfragments).congr fun i n => ?_
  have hleast := r.least_pos
  simp only [List.mem_append, or_and_right, exists_or]
  -- The n-grams at the start of the text, then those behind it
  refine or_congr ⟨?_, ?_⟩ ⟨?_, ?_⟩
  · rintro ⟨p, hp, rfl, rfl⟩
    obtain ⟨n, hn, rfl⟩ := mem_gramsAtStart_iff.1 hp
    have hn := mem_below_iff.1 hn
    rw [Piece.length_ofSlice (by omega)]
    exact ⟨rfl, hn.1, by omega⟩
  · rintro ⟨rfl, hn, hn'⟩
    refine ⟨Piece.ofSlice text 0 n, mem_gramsAtStart_iff.2 ⟨n, mem_below_iff.2 (by omega), rfl⟩, rfl, ?_⟩
    exact Piece.length_ofSlice (by omega)
  · rintro ⟨p, hp, rfl, rfl⟩
    obtain ⟨i, hi, rfl⟩ := mem_gramsAfterStart_iff.1 hp
    rw [Piece.length_ofSlice (by omega)]
    exact ⟨hi.1, hi.2, rfl⟩
  · rintro ⟨hi, hi', rfl⟩
    refine ⟨_, mem_gramsAfterStart_iff.2 ⟨i, ⟨hi, hi'⟩, rfl⟩, rfl, ?_⟩
    exact Piece.length_ofSlice (by omega)

/-! ## Enumerations -/

/-- **Enumerated occurrences.** Every text has proper substrings and n-grams, each text once. The substrings stand at
all places at which a length of the range fits, as long as it is less than that of the text. The n-grams stand at the
start with all such lengths, and at each later place once, as long as the range and the rest of the text allow; their
degrees are their lengths. Cut step by step they are the same: no place lies outside of a text or a list, no difference
is below zero, and no sum is greater than the length of the text. -/
theorem tokenize_enumerates (r : LengthRange) (text : Text) :
    (∃ tokens, r.substrings text = .ok tokens ∧ r.substringsInPlace text = .ok tokens ∧
      Enumerates text tokens fun i n =>
        r.least ≤ n ∧ n ≤ min r.greatest (text.length - 1) ∧ i ≤ text.length - n) ∧
    ∃ tokens, r.grams text = .ok tokens ∧ r.gramsInPlace text = .ok tokens ∧
      (∀ t ∈ tokens, t.degree = t.fragment.text.length) ∧
      Enumerates text tokens fun i n =>
        (i = 0 ∧ r.least ≤ n ∧ n ≤ min r.greatest (text.length - 1)) ∨
        (1 ≤ i ∧ i ≤ text.length - r.least ∧ n = min r.greatest (text.length - i)) := by
  obtain ⟨substrings, hsubstrings, henumerated⟩ := r.exists_enumeratedSubstrings text
  obtain ⟨grams, hgrams, hdegree, henumerated'⟩ := r.exists_enumeratedGrams text
  exact ⟨⟨substrings, hsubstrings, substringsInPlace_eq hsubstrings, henumerated⟩,
    grams, hgrams, gramsInPlace_eq hgrams, hdegree, henumerated'⟩

/-- Of the two n-grams at the start the shorter one stands at the end, too. -/
example : ((unbounded.grams "aba".toList).map fun tokens =>
    tokens.map fun t => (t.degree, t.fragment.text, t.fragment.positions.toList)) =
      .ok [(1, "a".toList, [0, 2]), (2, "ab".toList, [0]), (2, "ba".toList, [1])] := by
  decide

end LengthRange

end TextAnalysis
