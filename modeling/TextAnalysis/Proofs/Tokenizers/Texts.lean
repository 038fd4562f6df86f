/-
# Texts of gathered tokens

Gathering makes one token of all pieces with the same text, whatever kind of token it makes: the tokens have different
texts, in the order in which the pieces have them first. It succeeds if every piece can be made a token.
-/
import Mathlib.Data.List.Induction
import Mathlib.Data.List.Nodup
import TextAnalysis.Tokenizer.Gathering
import TextAnalysis.Proofs.Outcomes

namespace TextAnalysis

variable {α : Type} [Token α] {make : Piece → Except Error α} {p : Piece} {tokens tokens' : List α}

/-- An added occurrence changes no text. -/
theorem map_text_addOccurrence? (hadd : ∀ (t : α) position, Token.text (Token.addPosition t position) = Token.text t)
    (h : addOccurrence? p tokens = some tokens') : tokens'.map Token.text = tokens.map Token.text := by
  induction tokens generalizing tokens' with
  | nil => cases h
  | cons t tokens ih =>
    unfold addOccurrence? at h
    split at h
    · cases h
      rw [List.map_cons, List.map_cons, hadd]
    · obtain ⟨rest, hrest, rfl⟩ := Option.map_eq_some_iff.1 h
      rw [List.map_cons, List.map_cons, ih hrest]

theorem not_mem_of_addOccurrence? (h : addOccurrence? p tokens = none) : p.text ∉ tokens.map Token.text := by
  induction tokens with
  | nil => simp
  | cons t tokens ih =>
    unfold addOccurrence? at h
    split at h
    · cases h
    · rename_i htext
      rw [List.map_cons, List.mem_cons, not_or]
      exact ⟨fun heq => htext heq.symm, ih (Option.map_eq_none_iff.1 h)⟩

theorem mem_of_addOccurrence? (h : addOccurrence? p tokens = some tokens') : p.text ∈ tokens.map Token.text := by
  induction tokens generalizing tokens' with
  | nil => cases h
  | cons t tokens ih =>
    unfold addOccurrence? at h
    split at h
    · rename_i htext
      exact List.mem_cons.2 (.inl htext.symm)
    · obtain ⟨rest, hrest, -⟩ := Option.map_eq_some_iff.1 h
      exact List.mem_cons_of_mem _ (ih hrest)

/-- A piece is added to the token with its text, or it becomes a token of its own if there is none. -/
theorem addPiece_cases (h : addPiece make tokens p = .ok tokens') :
    addOccurrence? p tokens = some tokens' ∨
      addOccurrence? p tokens = none ∧ ∃ t, make p = .ok t ∧ tokens' = tokens ++ [t] := by
  unfold addPiece at h
  cases hadd : addOccurrence? p tokens with
  | some added =>
    rw [hadd] at h
    cases h
    exact .inl rfl
  | none =>
    rw [hadd] at h
    obtain ⟨t, ht, rfl⟩ := map_eq_ok.1 h
    exact .inr ⟨rfl, t, ht, rfl⟩

/-- What every token keeps when an occurrence is added holds of all tokens afterwards. -/
theorem forall_mem_of_addOccurrence? {P : α → Prop} (hadd : ∀ t position, P t → P (Token.addPosition t position))
    (h : addOccurrence? p tokens = some tokens') (ht : ∀ t ∈ tokens, P t) : ∀ t ∈ tokens', P t := by
  induction tokens generalizing tokens' with
  | nil => cases h
  | cons t tokens ih =>
    obtain ⟨hfirst, hrest⟩ := List.forall_mem_cons.1 ht
    unfold addOccurrence? at h
    split at h
    · cases h
      exact List.forall_mem_cons.2 ⟨hadd t _ hfirst, hrest⟩
    · obtain ⟨rest, hadded, rfl⟩ := Option.map_eq_some_iff.1 h
      exact List.forall_mem_cons.2 ⟨hfirst, ih hadded hrest⟩

/-- What holds of new tokens and is kept when occurrences are added holds of gathered tokens. -/
theorem forall_mem_of_gather {P : α → Prop} (hadd : ∀ t position, P t → P (Token.addPosition t position))
    {pieces : List Piece} (hmake : ∀ p ∈ pieces, ∀ t, make p = .ok t → P t) (h : gather make pieces = .ok tokens) :
    ∀ t ∈ tokens, P t := by
  refine of_foldlM_eq_ok (fun tokens : List α => ∀ t ∈ tokens, P t) ?_ (by simp) h
  intro tokens p tokens' hp ht h
  rcases addPiece_cases h with hadded | ⟨-, t, hmade, rfl⟩
  · exact forall_mem_of_addOccurrence? hadd hadded ht
  · exact List.forall_mem_append.2 ⟨ht, List.forall_mem_singleton.2 (hmake p hp t hmade)⟩

/-- Gathered tokens have different texts. -/
theorem nodup_gather (hadd : ∀ (t : α) position, Token.text (Token.addPosition t position) = Token.text t)
    (hmake : ∀ p t, make p = .ok t → Token.text t = p.text) {pieces : List Piece}
    (h : gather make pieces = .ok tokens) : (tokens.map Token.text).Nodup := by
  refine of_foldlM_eq_ok (fun tokens : List α => (tokens.map Token.text).Nodup) ?_ (by simp) h
  intro tokens p tokens' _ hnodup h
  rcases addPiece_cases h with hadded | ⟨hnone, t, ht, rfl⟩
  · rwa [map_text_addOccurrence? hadd hadded]
  · rw [List.map_append, List.map_singleton, hmake p t ht]
    exact hnodup.append (List.nodup_singleton _) (by simpa using not_mem_of_addOccurrence? hnone)

/-- Pieces that can all be made tokens can be gathered. -/
theorem exists_gather {pieces : List Piece} (h : ∀ p ∈ pieces, ∃ t, make p = .ok t) :
    ∃ tokens, gather make pieces = .ok tokens := by
  -- By induction from any tokens, since later pieces are added to the earlier ones.
  have hfrom : ∀ start : List α, ∃ tokens, pieces.foldlM (addPiece make) start = .ok tokens := by
    induction pieces with
    | nil => exact fun start => ⟨start, rfl⟩
    | cons p pieces ih =>
      intro start
      obtain ⟨next, hnext⟩ : ∃ next, addPiece make start p = .ok next := by
        unfold addPiece
        cases addOccurrence? p start with
        | some added => exact ⟨added, rfl⟩
        | none =>
          obtain ⟨t, ht⟩ := h p (List.mem_cons_self ..)
          exact ⟨start ++ [t], map_eq_ok.2 ⟨t, ht, rfl⟩⟩
      obtain ⟨tokens, htokens⟩ := ih (fun q hq => h q (List.mem_cons_of_mem _ hq)) next
      exact ⟨tokens, by rw [List.foldlM_cons, hnext, ok_bind, htokens]⟩
  exact hfrom []

/-! ## Tokens made into others -/

section Map

variable {β : Type} [Token β] {make' : Piece → Except Error β} {f : α → β}
  (htext : ∀ t, Token.text (f t) = Token.text t)
  (hadd : ∀ t position, f (Token.addPosition t position) = Token.addPosition (f t) position)

include htext hadd

theorem addOccurrence?_map (p : Piece) (tokens : List α) :
    addOccurrence? p (tokens.map f) = (addOccurrence? p tokens).map (List.map f) := by
  induction tokens with
  | nil => rfl
  | cons t tokens ih =>
    rw [List.map_cons, addOccurrence?, addOccurrence?, htext, ih]
    split
    · rw [Option.map_some, List.map_cons, hadd]
    · rw [Option.map_map, Option.map_map]
      rfl

theorem addPiece_map (hmake : make' p = (make p).map f) (tokens : List α) :
    addPiece make' (tokens.map f) p = (addPiece make tokens p).map (List.map f) := by
  unfold addPiece
  rw [addOccurrence?_map htext hadd, hmake]
  cases addOccurrence? p tokens with
  | some added => rfl
  | none =>
    cases make p with
    | error e => rfl
    | ok t =>
      show Except.ok (tokens.map f ++ [f t]) = Except.ok ((tokens ++ [t]).map f)
      rw [List.map_append, List.map_singleton]

/-- It makes no difference whether tokens are made into others piece by piece or after they were gathered. -/
theorem gather_map {pieces : List Piece} (hmake : ∀ p ∈ pieces, make' p = (make p).map f) :
    gather make' pieces = (gather make pieces).map (List.map f) := by
  have hfrom : ∀ start : List α, pieces.foldlM (addPiece make') (start.map f) =
      (pieces.foldlM (addPiece make) start).map (List.map f) := by
    induction pieces with
    | nil => exact fun start => rfl
    | cons p pieces ih =>
      intro start
      obtain ⟨hp, hpieces⟩ := List.forall_mem_cons.1 hmake
      rw [List.foldlM_cons, List.foldlM_cons, addPiece_map htext hadd hp]
      cases addPiece make start p with
      | error e => rfl
      | ok next => exact ih hpieces next
  exact hfrom []

end Map

/-! ## The order of texts -/

section Order

variable (hadd : ∀ (t : α) position, Token.text (Token.addPosition t position) = Token.text t)
  (hmake : ∀ p t, make p = .ok t → Token.text t = p.text)

include hadd

/-- Pieces that are added later leave the texts so far where they are. -/
theorem prefix_of_addPieces {pieces : List Piece} (h : pieces.foldlM (addPiece make) tokens = .ok tokens') :
    tokens.map Token.text <+: tokens'.map Token.text := by
  refine of_foldlM_eq_ok (fun tokens' : List α => tokens.map Token.text <+: tokens'.map Token.text) ?_
    (List.prefix_refl _) h
  intro before p after _ hprefix h
  rcases addPiece_cases h with hadded | ⟨-, t, -, rfl⟩
  · rwa [map_text_addOccurrence? hadd hadded]
  · rw [List.map_append]
    exact hprefix.trans (List.prefix_append ..)

include hmake

/-- Gathered tokens have no other texts than the pieces. -/
theorem exists_piece_of_gather {pieces : List Piece} (h : gather make pieces = .ok tokens) :
    ∀ x ∈ tokens.map Token.text, ∃ p ∈ pieces, p.text = x := by
  refine of_foldlM_eq_ok (fun tokens : List α => ∀ x ∈ tokens.map Token.text, ∃ p ∈ pieces, p.text = x) ?_ (by simp) h
  intro before p after hp hbefore h
  rcases addPiece_cases h with hadded | ⟨-, t, ht, rfl⟩
  · rwa [map_text_addOccurrence? hadd hadded]
  · rw [List.map_append]
    exact List.forall_mem_append.2 ⟨hbefore, List.forall_mem_singleton.2 ⟨p, hp, (hmake p t ht).symm⟩⟩

omit hadd in
/-- Pieces with different texts become tokens in the same order. -/
theorem map_text_gather {pieces : List Piece} (hnodup : (pieces.map (·.text)).Nodup)
    (h : gather make pieces = .ok tokens) : tokens.map Token.text = pieces.map (·.text) := by
  induction pieces using List.reverseRecOn generalizing tokens with
  | nil =>
    cases h
    rfl
  | append_singleton pieces p ih =>
    rw [List.map_append, List.map_singleton] at hnodup ⊢
    unfold gather at h
    rw [List.foldlM_append] at h
    obtain ⟨before, hbefore, h⟩ := bind_eq_ok.1 h
    obtain ⟨after, hafter, hlast⟩ := bind_eq_ok.1 h
    cases hlast
    have htexts := ih hnodup.of_append_left hbefore
    -- The text of the last piece is new, so it is not added to an earlier token.
    rcases addPiece_cases hafter with hadded | ⟨-, t, ht, rfl⟩
    · have hmem := mem_of_addOccurrence? hadded
      rw [htexts] at hmem
      exact absurd (List.mem_singleton_self _) (List.disjoint_of_nodup_append hnodup hmem)
    · rw [List.map_append, List.map_singleton, htexts, hmake p t ht]

/-- The token of a piece with a new text comes behind those of the pieces before it. -/
theorem exists_split_of_gather {p : Piece} {first later : List Piece}
    (h : gather make (first ++ p :: later) = .ok tokens) (hnew : ∀ q ∈ first, q.text ≠ p.text) :
    ∃ front t back, tokens = front ++ t :: back ∧ Token.text t = p.text ∧
      ∀ u ∈ front, ∃ q ∈ first, q.text = Token.text u := by
  unfold gather at h
  rw [List.foldlM_append] at h
  obtain ⟨before, hbefore, h⟩ := bind_eq_ok.1 h
  rw [List.foldlM_cons] at h
  obtain ⟨next, hnext, h⟩ := bind_eq_ok.1 h
  have htexts := exists_piece_of_gather hadd hmake hbefore
  -- No token before has the text, so the piece becomes a token of its own.
  obtain ⟨t, ht, rfl⟩ : ∃ t, make p = .ok t ∧ next = before ++ [t] := by
    rcases addPiece_cases hnext with hadded | ⟨-, hmade⟩
    · obtain ⟨q, hq, htext⟩ := htexts _ (mem_of_addOccurrence? hadded)
      exact absurd htext (hnew q hq)
    · exact hmade
  obtain ⟨others, hothers⟩ := prefix_of_addPieces hadd h
  rw [List.map_append, List.append_assoc] at hothers
  obtain ⟨front, rest, rfl, hfront, hrest⟩ := List.map_eq_append_iff.1 hothers.symm
  obtain ⟨t', back, rfl, ht', -⟩ := List.map_eq_cons_iff.1 hrest
  exact ⟨front, t', back, rfl, ht'.trans (hmake p t ht), fun u hu => htexts _ (hfront ▸ List.mem_map_of_mem hu)⟩

end Order

end TextAnalysis
