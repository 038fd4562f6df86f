/-
# Gathering with an index

Tokens gathered with a map from their texts to their places: an occurrence is added at the place that the map has for
its text. A place outside of the list stops the computation. That does not happen, since the map has the place of every
text and no other, and the result is what gathering yields.
-/
import Std.Data.HashMap.Lemmas
import TextAnalysis.Proofs.Tokenizers.Texts

namespace TextAnalysis

/-! ## Steps that can fail -/

/-- Why cutting stops: a place outside of a list or a text, a difference below zero, a sum that no word need hold, or a
token that cannot be made. -/
inductive CutFault where
  | outOfBounds
  | negative
  | overflow
  | refused (e : Error)
  deriving DecidableEq

/-- A token that is made, unless that is refused. -/
def CutFault.refusing {α : Type} (made : Except Error α) : Except CutFault α :=
  made.mapError .refused

/-- Texts are hashed as strings. -/
instance : Hashable Text :=
  ⟨fun text => hash (String.ofList text)⟩

/-- Tokens in the order in which they were found, with the places of their texts. -/
structure Collector (α : Type) where
  tokens : List α
  places : Std.HashMap Text Nat

namespace Collector

variable {α : Type} [Token α] {make : Piece → Except Error α} {p : Piece} {c : Collector α}

/-- A sum that is no greater than a limit. -/
def sumUpTo (limit x y : Nat) : Except CutFault Nat :=
  if x + y ≤ limit then .ok (x + y) else .error .overflow

theorem sumUpTo_eq {limit x y : Nat} (h : x + y ≤ limit) : sumUpTo limit x y = .ok (x + y) :=
  if_pos h

/-- No tokens. -/
def empty : Collector α :=
  ⟨[], ∅⟩

/-- Adds a piece to the token at the place of its text. A text without a place gets the next one, with a new token. -/
def add (make : Piece → Except Error α) (c : Collector α) (p : Piece) : Except CutFault (Collector α) :=
  match c.places[p.text]? with
  | some i =>
    if i < c.tokens.length then
      .ok { c with tokens := c.tokens.modify i (Token.addPosition · p.position) }
    else .error .outOfBounds
  | none => do
    let t ← CutFault.refusing (make p)
    return { tokens := c.tokens ++ [t], places := c.places.insert p.text c.tokens.length }

/-! ## Places -/

/-- The place of the first token with a text. -/
def place? (tokens : List α) (text : Text) : Option Nat :=
  (tokens.map Token.text).findIdx? (· == text)

/-- The map has the places of the tokens' texts, and nothing else. -/
def Indexed (c : Collector α) : Prop :=
  ∀ text, c.places[text]? = place? c.tokens text

theorem indexed_empty : Indexed (empty : Collector α) :=
  fun _ => Std.HashMap.getElem?_empty

theorem lt_length_of_place? {tokens : List α} {text : Text} {i : Nat} (h : place? tokens text = some i) :
    i < tokens.length := by
  obtain ⟨hlt, -, -⟩ := List.findIdx?_eq_some_iff_getElem.1 h
  rwa [List.length_map] at hlt

/-- An occurrence is added at the place of its text. -/
theorem addOccurrence?_eq (p : Piece) (tokens : List α) :
    addOccurrence? p tokens =
      (place? tokens p.text).map fun i => tokens.modify i (Token.addPosition · p.position) := by
  unfold place?
  induction tokens with
  | nil => rfl
  | cons t tokens ih =>
    rw [addOccurrence?, List.map_cons, List.findIdx?_cons]
    by_cases htext : Token.text t = p.text
    · simp [htext]
    · simp [htext, ih, Function.comp_def]

theorem place?_concat (tokens : List α) (t : α) (text : Text) (h : place? tokens (Token.text t) = none) :
    place? (tokens ++ [t]) text = if Token.text t = text then some tokens.length else place? tokens text := by
  unfold place? at h ⊢
  rw [List.map_append, List.findIdx?_append, List.length_map, List.map_singleton, List.findIdx?_singleton]
  by_cases htext : Token.text t = text
  · rw [← htext, h]
    simp
  · simp [htext]

/-! ## Adding pieces -/

variable (hadd : ∀ (t : α) position, Token.text (Token.addPosition t position) = Token.text t)
  (hmake : ∀ p t, make p = .ok t → Token.text t = p.text)

include hadd hmake

/-- A piece is added to the tokens as when gathering, and the places stay right. -/
theorem exists_add (h : Indexed c) {tokens : List α} (hpiece : addPiece make c.tokens p = .ok tokens) :
    ∃ next, c.add make p = .ok next ∧ next.tokens = tokens ∧ Indexed next := by
  unfold add
  rw [h p.text]
  -- Either the text has a place already, or the new token takes the next one.
  rcases addPiece_cases hpiece with hadded | ⟨hnone, t, ht, rfl⟩
  · have htexts := map_text_addOccurrence? hadd hadded
    rw [addOccurrence?_eq] at hadded
    obtain ⟨i, hi, rfl⟩ := Option.map_eq_some_iff.1 hadded
    rw [hi]
    refine ⟨_, if_pos (lt_length_of_place? hi), rfl, fun text => ?_⟩
    rw [place?, htexts]
    exact h text
  · rw [addOccurrence?_eq, Option.map_eq_none_iff] at hnone
    rw [hnone, ht]
    refine ⟨_, rfl, rfl, fun text => ?_⟩
    have htext := hmake p t ht
    rw [place?_concat c.tokens t text (by rwa [htext]), Std.HashMap.getElem?_insert, h text, htext]
    simp

/-- Pieces that are added one after the other are gathered. -/
theorem exists_foldlM_add (h : Indexed c) {pieces : List Piece} {tokens : List α}
    (hpieces : pieces.foldlM (addPiece make) c.tokens = .ok tokens) :
    ∃ last, pieces.foldlM (add make) c = .ok last ∧ last.tokens = tokens ∧ Indexed last := by
  induction pieces generalizing c with
  | nil =>
    cases hpieces
    exact ⟨c, rfl, rfl, h⟩
  | cons p pieces ih =>
    rw [List.foldlM_cons] at hpieces
    obtain ⟨added, hadded, hpieces⟩ := bind_eq_ok.1 hpieces
    obtain ⟨next, hnext, rfl, hindexed⟩ := exists_add hadd hmake h hadded
    obtain ⟨last, hlast, htokens⟩ := ih hindexed hpieces
    exact ⟨last, by rw [List.foldlM_cons, hnext, ok_bind, hlast], htokens⟩

end Collector

end TextAnalysis
