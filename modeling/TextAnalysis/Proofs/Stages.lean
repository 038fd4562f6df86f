/-
# Stages as list functions

Stages walk over a sequence with a cursor. What they answer is a filter of its tokens, or a map of them: removals leave
out tokens and count every one as an edit, visits change tokens in place, and translations give a meaning to the tokens
for which an entry is found. If a step fails on a token, the failure on the first such token is the answer.
-/
import TextAnalysis.Pattern.Engine
import TextAnalysis.Stage
import TextAnalysis.Proofs.Positions
import TextAnalysis.Proofs.Removals
import TextAnalysis.Proofs.Visits

namespace TextAnalysis.Stage

variable {α β : Type}

/-! ## Removing -/

theorem remove_eq (p : α → Bool) (s : Sequence α) :
    remove p s = .ok { s with tokens := s.tokens.filter (! p ·), edits := s.edits + s.tokens.countP p } := by
  have hask : (s.tokens.mapM fun t => (pure (p t) : Id Bool)) = pure (s.tokens.map p) := List.mapM_pure
  unfold remove
  rw [Sequence.removeM_eq, hask, map_pure, Id.run_pure, Sequence.without_map]
  rfl

theorem retain_eq (p : α → Bool) (s : Sequence α) :
    retain p s = .ok { s with tokens := s.tokens.filter p, edits := s.edits + s.tokens.countP (! p ·) } := by
  have hkept : s.tokens.filter (fun t => ! ! p t) = s.tokens.filter p :=
    List.filter_congr fun t _ => Bool.not_not (p t)
  unfold retain
  rw [remove_eq, hkept]

/-- It matters only for the tokens of the sequence whether they are to be removed. -/
theorem remove_congr {p q : α → Bool} {s : Sequence α} (h : ∀ t ∈ s.tokens, p t = q t) : remove p s = remove q s := by
  have hfilter : s.tokens.filter (! p ·) = s.tokens.filter (! q ·) := List.filter_congr fun t ht => by rw [h t ht]
  have hcount : s.tokens.countP p = s.tokens.countP q := List.countP_congr fun t ht => by rw [h t ht]
  rw [remove_eq, remove_eq, hfilter, hcount]

/-! ## Removing with failures -/

section

variable {p : α → StateM (Option Error) Bool} {look : α → Except Error Bool} {answer : α → Bool}

/-- A predicate that notes its first failure, asked along a list, notes the first failure along that list. -/
theorem run_mapM_noting (hp : ∀ t noted, (p t).run noted = (answer t, noted.or (failure? (look t))))
    (tokens : List α) (noted : Option Error) :
    (tokens.mapM p).run noted = (tokens.map answer, noted.or (firstFailure look tokens)) := by
  induction tokens generalizing noted with
  | nil =>
    rw [List.mapM_nil]
    exact Prod.ext rfl (Option.or_none).symm
  | cons t tokens ih =>
    rw [List.mapM_cons, StateT.run_bind, hp]
    show (tokens.mapM p >>= fun answers => pure (answer t :: answers)).run (noted.or (failure? (look t))) = _
    rw [StateT.run_bind, ih, firstFailure_cons, ← Option.or_assoc]
    rfl

/-- A removal with a predicate that notes its first failure fails with it, or removes tokens as the answers say. -/
theorem removeNoting_eq (hp : ∀ t noted, (p t).run noted = (answer t, noted.or (failure? (look t)))) (s : Sequence α) :
    removeNoting p s =
      match firstFailure look s.tokens with
      | some e => .error e
      | none => remove answer s := by
  unfold removeNoting
  rw [Sequence.removeM_eq, StateT.run_map, run_mapM_noting hp, remove_eq, ← Sequence.without_map]
  cases firstFailure look s.tokens with
  | some e => rfl
  | none => rfl

end

section

variable [PatternEngine] [Token α] (m : Matcher) (key : Text)

/-- Whether the text of a token matches a key. A matcher that fails does not say so. -/
def matched (t : α) : Bool :=
  (m.isMatch (Token.text t) key).toOption.getD false

theorem run_matchesOr (otherwise : Bool) (t : α) (noted : Option Error) :
    (matchesOr m key otherwise t).run noted =
      ((m.isMatch (Token.text t) key).toOption.getD otherwise, noted.or (failure? (m.isMatch (Token.text t) key))) := by
  show matchesOr m key otherwise t noted = _
  unfold matchesOr
  cases m.isMatch (Token.text t) key with
  | error e => rfl
  | ok b => exact Prod.ext rfl (Option.or_none).symm

/-- A removal by a matcher is a removal, unless the matcher fails: then the first failure is the answer. -/
theorem removeMatching_eq (s : Sequence α) :
    removeMatching m key s =
      match firstFailure (fun t => m.isMatch (Token.text t) key) s.tokens with
      | some e => .error e
      | none => remove (matched m key) s :=
  removeNoting_eq (run_matchesOr m key false) s

theorem retainMatching_eq (s : Sequence α) :
    retainMatching m key s =
      match firstFailure (fun t => m.isMatch (Token.text t) key) s.tokens with
      | some e => .error e
      | none => retain (matched m key) s := by
  have hp : ∀ (t : α) noted, (do return !(← matchesOr m key true t) : StateM (Option Error) Bool).run noted =
      (! (m.isMatch (Token.text t) key).toOption.getD true, noted.or (failure? (m.isMatch (Token.text t) key))) := by
    intro t noted
    rw [StateT.run_bind, run_matchesOr]
    rfl
  refine (removeNoting_eq hp s).trans ?_
  cases hfailure : firstFailure (fun t => m.isMatch (Token.text t) key) s.tokens with
  | some e => rfl
  | none =>
    -- Without failures it makes no difference what the answer after a failure would be.
    refine remove_congr fun t ht => ?_
    obtain ⟨b, hb⟩ := firstFailure_eq_none_iff.1 hfailure t ht
    unfold matched
    rw [hb]
    rfl

end

/-! ## Changing in place -/

theorem forEach_eq (f : α → α) (s : Sequence α) : forEach f s = .ok { s with tokens := s.tokens.map f } := by
  have hmap : (s.tokens.mapM fun t => (.ok (f t) : Except Error α)) = .ok (s.tokens.map f) := List.mapM_pure
  unfold forEach
  rw [Sequence.visit_eq_mapM, hmap]
  rfl

/-! ## Translating -/

/-- What becomes of a token for which an entry is found: it has the value and the association of the entry, its text and
its positions are the same, and the token before is kept under the revision, besides those of other revisions. -/
structure Translated (revision : Nat) (e : Entry β) (t u : Revised (Valued β)) : Prop where
  text_eq : u.current.text = t.current.text
  positions_eq : u.current.positions = t.current.positions
  value?_eq : u.current.value? = some e.value
  association?_eq : u.current.association? = e.association
  before?_eq : ∀ r, u.before? r = if r = revision then some t.current else t.before? r

/-- What becomes of a token for which an entry is looked up: without an entry it stays as it is. -/
def LookedUp (revision : Nat) (found : Option (Entry β)) (t u : Revised (Valued β)) : Prop :=
  match found with
  | some e => Translated revision e t u
  | none => u = t

/-- A token with the meaning that is found for its text. -/
def answered (revision : Nat) (t : Revised (Valued β)) : Option (Meaning β) → Revised (Valued β)
  | some m => t.revise revision (t.current.resolve m.value m.association)
  | none => t

theorem lookedUp_answered (revision : Nat) (found : Option (Entry β)) (t : Revised (Valued β)) :
    LookedUp revision found t (answered revision t (found.map meaning)) := by
  cases found with
  | none => rfl
  | some e => exact ⟨rfl, rfl, rfl, rfl, fun r => t.earlier.get?_put revision r t.current⟩

section

variable (find : Text → Except Error (Option (Entry β))) (revision : Nat) (s : Sequence (Revised (Valued β)))

/-- A translation is a lookup along the list of tokens, after which every token has the meaning that is found. -/
theorem translateBy_eq :
    translateBy (fun text => (find text).map (·.map meaning)) revision s =
      (s.tokens.mapM fun t => (find t.current.text).map fun found => answered revision t (found.map meaning)).map
        fun tokens => { s with tokens } := by
  unfold translateBy
  rw [Sequence.visit_eq_mapM]
  refine congrArg (Except.map _) (congrArg (List.mapM · s.tokens) (funext fun t => ?_))
  dsimp only
  cases find t.current.text with
  | error e => rfl
  | ok found => cases found <;> rfl

/-- A translation fails as the first lookup that fails, or it changes every token as its own lookup says. -/
theorem translateBy_cases :
    match firstFailure (fun t => find t.current.text) s.tokens with
    | some e => translateBy (fun text => (find text).map (·.map meaning)) revision s = .error e
    | none => ∃ tokens, translateBy (fun text => (find text).map (·.map meaning)) revision s = .ok { s with tokens } ∧
        List.Forall₂ (fun t u => ∃ found, find t.current.text = .ok found ∧ LookedUp revision found t u)
          s.tokens tokens := by
  rw [translateBy_eq, ← firstFailure_map _ fun t found => answered revision t (found.map meaning)]
  split
  · rename_i e hfailure
    rw [mapM_eq_error_iff.2 hfailure]
    rfl
  · rename_i hfailure
    obtain ⟨tokens, htokens⟩ := exists_mapM_eq_ok_iff.2 (firstFailure_eq_none_iff.1 hfailure)
    refine ⟨tokens, by rw [htokens]; rfl, (mapM_eq_ok.1 htokens).imp fun t u hu => ?_⟩
    obtain ⟨found, hfound, rfl⟩ := map_eq_ok.1 hu
    exact ⟨found, hfound, lookedUp_answered revision found t⟩

end

section

variable (revision : Nat) (s : Sequence (Revised (Valued β))) (d : Dictionary β)

/-- A translation through a dictionary never fails: every token becomes what the entry with its text says. -/
theorem exists_translate :
    ∃ tokens, translate d revision s = .ok { s with tokens } ∧
      List.Forall₂ (fun t u => LookedUp revision (d.lookup? t.current.text) t u) s.tokens tokens := by
  have hcases := translateBy_cases (fun text => .ok (d.lookup? text)) revision s
  have hnone : firstFailure (fun t : Revised (Valued β) =>
      (.ok (d.lookup? t.current.text) : Except Error (Option (Entry β)))) s.tokens = none :=
    firstFailure_eq_none_iff.2 fun _ _ => ⟨_, rfl⟩
  rw [hnone] at hcases
  obtain ⟨tokens, htokens, hall⟩ := hcases
  refine ⟨tokens, htokens, hall.imp fun t u hu => ?_⟩
  obtain ⟨found, hfound, hlooked⟩ := hu
  cases hfound
  exact hlooked

/-- A translation through the best matches fails as the first lookup that fails, or every token becomes what the entry
that matches its text best says. -/
theorem translateWith_cases [PatternEngine] (m : Matcher) :
    match firstFailure (fun t => d.matching t.current.text m) s.tokens with
    | some e => translateWith d m revision s = .error e
    | none => ∃ tokens, translateWith d m revision s = .ok { s with tokens } ∧
        List.Forall₂ (fun t u => ∃ found, d.matching t.current.text m = .ok found ∧
          LookedUp revision (found.best.map (·.entry)) t u) s.tokens tokens := by
  have hcases :=
    translateBy_cases (fun text => (d.matching text m).map fun found => found.best.map (·.entry)) revision s
  -- A lookup finds what the entry of the best match means.
  have hfind : (fun text => ((d.matching text m).map fun found => found.best.map (·.entry)).map (·.map meaning)) =
      fun text => (d.matching text m).map fun found => found.best.map (meaning ·.entry) := by
    funext text
    rw [map_map_eq]
    simp only [Option.map_map]
    rfl
  rw [hfind, firstFailure_map _ fun _ (found : Matches β) => found.best.map (·.entry)] at hcases
  unfold translateWith
  split
  · rename_i e hfailure
    rw [hfailure] at hcases
    exact hcases
  · rename_i hfailure
    rw [hfailure] at hcases
    obtain ⟨tokens, htokens, hall⟩ := hcases
    refine ⟨tokens, htokens, hall.imp fun t u hu => ?_⟩
    obtain ⟨found, hfound, hlooked⟩ := hu
    obtain ⟨ms, hmatches, rfl⟩ := map_eq_ok.1 hfound
    exact ⟨ms, hmatches, hlooked⟩

end

/-! ## All stages -/

/-- Stages are filters and maps of the tokens. A removal asks about every token once, in order, and counts what it
leaves out as edits; with a matcher it fails with the failure on the first token on which the matcher fails. Changes in
place apply their function to every token and are no edits. Neither are translations, which give every token what is
found for its own text, or fail with the failure of the first lookup that fails. -/
theorem stages_listFunctions [PatternEngine] {m : Type → Type} [Monad m] [LawfulMonad m] [Token α] (s : Sequence α)
    (ask : α → m Bool) (p : α → Bool) (f g : α → α) (matcher : Matcher) (key : Text) (w : Sequence (Revised (Valued β)))
    (d : Dictionary β) (revision : Nat) :
    s.removeM ask = (fun flags => .ok (s.without flags)) <$> s.tokens.mapM ask ∧
    remove p s = .ok { s with tokens := s.tokens.filter (! p ·), edits := s.edits + s.tokens.countP p } ∧
    retain p s = .ok { s with tokens := s.tokens.filter p, edits := s.edits + s.tokens.countP (! p ·) } ∧
    (removeMatching matcher key s =
      match firstFailure (fun t => matcher.isMatch (Token.text t) key) s.tokens with
      | some e => .error e
      | none => remove (matched matcher key) s) ∧
    (retainMatching matcher key s =
      match firstFailure (fun t => matcher.isMatch (Token.text t) key) s.tokens with
      | some e => .error e
      | none => retain (matched matcher key) s) ∧
    forEach f s = .ok { s with tokens := s.tokens.map f } ∧
    conditional p f g s = .ok { s with tokens := s.tokens.map fun t => if p t then f t else g t } ∧
    (∃ tokens, translate d revision w = .ok { w with tokens } ∧
      List.Forall₂ (fun t u => LookedUp revision (d.lookup? t.current.text) t u) w.tokens tokens) ∧
    match firstFailure (fun t => d.matching t.current.text matcher) w.tokens with
    | some e => translateWith d matcher revision w = .error e
    | none => ∃ tokens, translateWith d matcher revision w = .ok { w with tokens } ∧
        List.Forall₂ (fun t u => ∃ found, d.matching t.current.text matcher = .ok found ∧
          LookedUp revision (found.best.map (·.entry)) t u) w.tokens tokens :=
  ⟨s.removeM_eq ask, remove_eq p s, retain_eq p s, removeMatching_eq matcher key s, retainMatching_eq matcher key s,
    forEach_eq f s, forEach_eq _ s, exists_translate revision w d, translateWith_cases revision w d matcher⟩

/-- Two tokens in a row and the last one are removed by a predicate that takes down the texts it is asked about. -/
theorem stages_listFunctions_takenDown :
    ((Sequence.ofList [⟨['a'], .single 0, by decide⟩, ⟨['a'], .single 1, by decide⟩, ⟨['b'], .single 2, by decide⟩,
          ⟨['a'], .single 3, by decide⟩]).removeM
        fun t : Fragment => (do modify (· ++ [t.text]); return t.text == ['a'] : StateM (List Text) Bool)).run [] =
      (.ok { tokens := [⟨['b'], .single 2, by decide⟩], edits := 3 }, [['a'], ['a'], ['b'], ['a']]) := by
  rw [(stages_listFunctions _ _ (fun _ => true) id id .pattern [] (Sequence.ofList []) ({} : Dictionary Nat) 0).1]
  rfl

end TextAnalysis.Stage
