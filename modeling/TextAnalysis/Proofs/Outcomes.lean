/-
# Outcomes

Computations that may fail: when two steps in a row succeed, when one step succeeds along a list, and what steps along a
list keep. Steps may also change a state, which keeps the change if a later step fails.
-/
import Mathlib.Data.List.Forall2

namespace TextAnalysis

variable {ε α β : Type}

@[simp] theorem ok_bind (a : α) (f : α → Except ε β) : (Except.ok a >>= f) = f a :=
  rfl

/-- Two steps in a row succeed exactly if the first does and the second does on its result. -/
theorem bind_eq_ok {x : Except ε α} {f : α → Except ε β} {b : β} :
    x >>= f = .ok b ↔ ∃ a, x = .ok a ∧ f a = .ok b := by
  cases x with
  | error e => simp [bind, Except.bind]
  | ok a => simp [bind, Except.bind]

/-- Two steps in a row fail exactly if the first does, or the second does on its result. -/
theorem bind_eq_error {x : Except ε α} {f : α → Except ε β} {e : ε} :
    x >>= f = .error e ↔ x = .error e ∨ ∃ a, x = .ok a ∧ f a = .error e := by
  cases x with
  | error e' => simp [bind, Except.bind]
  | ok a => simp [bind, Except.bind]

/-- A check in front of further steps lets them through exactly if it finds nothing. -/
theorem check_bind_eq_ok {c : Prop} [Decidable c] {e : ε} {f : PUnit → Except ε α} {x : Except ε α}
    {a : α} : (if c then .error e >>= f else x) = .ok a ↔ ¬ c ∧ x = .ok a := by
  by_cases hc : c
  · simp [hc, bind, Except.bind]
  · simp [hc]

/-- A step without a result in front of further ones lets them through exactly if it succeeds. -/
theorem unit_bind_eq_ok {x : Except ε Unit} {y : Except ε α} {a : α} :
    (x >>= fun _ => y) = .ok a ↔ x = .ok () ∧ y = .ok a := by
  rw [bind_eq_ok]
  exact ⟨fun ⟨_, hx, hy⟩ => ⟨hx, hy⟩, fun ⟨hx, hy⟩ => ⟨(), hx, hy⟩⟩

/-- A success that is mapped comes from a success. -/
theorem map_eq_ok {x : Except ε α} {f : α → β} {b : β} :
    x.map f = .ok b ↔ ∃ a, x = .ok a ∧ f a = b := by
  cases x with
  | error e => simp [Except.map]
  | ok a => simp [Except.map]

/-- Two maps one after the other. -/
theorem map_map_eq {γ : Type} (x : Except ε α) (f : α → β) (g : β → γ) : (x.map f).map g = x.map fun a => g (f a) := by
  cases x with
  | ok a => rfl
  | error e => rfl

/-- A failure that is mapped comes from the same failure. -/
theorem map_eq_error {x : Except ε α} {f : α → β} {e : ε} : x.map f = .error e ↔ x = .error e := by
  cases x with
  | error e' => simp [Except.map]
  | ok a => simp [Except.map]

/-- What is left when the failure is forgotten. -/
theorem toOption_eq_some {x : Except ε α} {a : α} : x.toOption = some a ↔ x = .ok a := by
  cases x with
  | error e => simp [Except.toOption]
  | ok b => simp [Except.toOption]

theorem mapError_eq_ok {ε' : Type} {x : Except ε α} {f : ε → ε'} {a : α} : x.mapError f = .ok a ↔ x = .ok a := by
  cases x with
  | error e => simp [Except.mapError]
  | ok b => simp [Except.mapError]

theorem mapError_eq_error {ε' : Type} {x : Except ε α} {f : ε → ε'} {e' : ε'} :
    x.mapError f = .error e' ↔ ∃ e, x = .error e ∧ f e = e' := by
  cases x with
  | error e => simp [Except.mapError]
  | ok b => simp [Except.mapError]

/-- It makes no difference whether successes or failures are mapped first. -/
theorem mapError_map {ε' : Type} (x : Except ε α) (f : α → β) (g : ε → ε') :
    (x.map f).mapError g = (x.mapError g).map f := by
  cases x with
  | error e => rfl
  | ok a => rfl

/-- A success is the same whatever becomes of failures. -/
theorem map_mapError_eq_ok {x : Except ε α} {a : α} (f : ε → ε) :
    (x.mapError f).map id = .ok a ↔ x = .ok a := by
  cases x with
  | error e => simp [Except.map, Except.mapError]
  | ok b => exact Iff.rfl

/-- A step succeeds along a list exactly if it succeeds on every member. -/
theorem mapM_eq_ok {f : α → Except ε β} {l : List α} {l' : List β} :
    l.mapM f = .ok l' ↔ List.Forall₂ (fun a b => f a = .ok b) l l' := by
  induction l generalizing l' with
  | nil =>
    rw [List.mapM_nil, List.forall₂_nil_left_iff]
    constructor
    · intro h
      cases h
      rfl
    · rintro rfl
      rfl
  | cons a l ih =>
    rw [List.mapM_cons, bind_eq_ok]
    constructor
    · rintro ⟨b, hb, h⟩
      obtain ⟨bs, hbs, h⟩ := bind_eq_ok.1 h
      cases h
      exact .cons hb (ih.1 hbs)
    · intro h
      cases h with
      | cons hb hbs => exact ⟨_, hb, bind_eq_ok.2 ⟨_, ih.2 hbs, rfl⟩⟩

/-- A member of the second of two related lists is related to one of the first. -/
theorem exists_of_mem_of_forall₂ {R : α → β → Prop} {l : List α} {l' : List β} (h : List.Forall₂ R l l')
    {b : β} (hb : b ∈ l') : ∃ a ∈ l, R a b := by
  induction h with
  | nil => cases hb
  | cons hab _ ih =>
    rcases List.mem_cons.1 hb with rfl | hb
    · exact ⟨_, List.mem_cons_self .., hab⟩
    · obtain ⟨a, ha, hab⟩ := ih hb
      exact ⟨a, List.mem_cons_of_mem _ ha, hab⟩

/-- Where a step succeeds along a list, the outcomes are those of the members. -/
theorem mem_iff_of_mapM_eq_ok {f : α → Except ε β} {l : List α} {l' : List β} (h : l.mapM f = .ok l') {b : β} :
    b ∈ l' ↔ ∃ a ∈ l, f a = .ok b := by
  constructor
  · exact exists_of_mem_of_forall₂ (mapM_eq_ok.1 h)
  · rintro ⟨a, ha, hb⟩
    obtain ⟨b', hb', hab⟩ := exists_of_mem_of_forall₂ (mapM_eq_ok.1 h).flip ha
    cases hab.symm.trans hb
    exact hb'

/-- A step succeeds along a list if it succeeds on every member. -/
theorem exists_mapM_eq_ok_iff {f : α → Except ε β} {l : List α} :
    (∃ l', l.mapM f = .ok l') ↔ ∀ a ∈ l, ∃ b, f a = .ok b := by
  simp only [mapM_eq_ok]
  induction l with
  | nil => exact ⟨fun _ a ha => absurd ha List.not_mem_nil, fun _ => ⟨[], .nil⟩⟩
  | cons a l ih =>
    rw [List.forall_mem_cons, ← ih]
    constructor
    · rintro ⟨_, h⟩
      cases h with
      | cons hb hbs => exact ⟨⟨_, hb⟩, _, hbs⟩
    · rintro ⟨⟨b, hb⟩, bs, hbs⟩
      exact ⟨b :: bs, .cons hb hbs⟩

/-- A step that fails along a list fails on one of its members. -/
theorem exists_of_mapM_eq_error {f : α → Except ε β} {l : List α} {e : ε} (h : l.mapM f = .error e) :
    ∃ a ∈ l, f a = .error e := by
  induction l with
  | nil => cases h
  | cons a l ih =>
    rw [List.mapM_cons] at h
    -- If the first member does not fail, then the failure is that of the rest.
    cases ha : f a with
    | error e' =>
      rw [ha] at h
      cases h
      exact ⟨a, List.mem_cons_self .., ha⟩
    | ok b =>
      rw [ha, ok_bind] at h
      cases hl : l.mapM f with
      | error e' =>
        rw [hl] at h
        cases h
        obtain ⟨a', ha', hfail⟩ := ih hl
        exact ⟨a', List.mem_cons_of_mem _ ha', hfail⟩
      | ok bs =>
        rw [hl] at h
        cases h

/-- The failure of a computation, if it fails. -/
def failure? : Except ε α → Option ε
  | .error e => some e
  | .ok _ => none

/-- The failure on the first member of a list on which a step fails, if there is one. -/
def firstFailure (f : α → Except ε β) (l : List α) : Option ε :=
  l.findSome? fun a => failure? (f a)

theorem failure?_eq_none_iff {x : Except ε α} : failure? x = none ↔ ∃ a, x = .ok a := by
  cases x with
  | error e => simp [failure?]
  | ok a => simp [failure?]

theorem failure?_map (x : Except ε α) (f : α → β) : failure? (x.map f) = failure? x := by
  cases x with
  | error e => rfl
  | ok a => rfl

theorem firstFailure_cons (f : α → Except ε β) (a : α) (l : List α) :
    firstFailure f (a :: l) = (failure? (f a)).or (firstFailure f l) := by
  unfold firstFailure
  rw [List.findSome?_cons]
  cases failure? (f a) with
  | none => rfl
  | some e => rfl

/-- What becomes of the successes makes no difference to the first failure. -/
theorem firstFailure_map {γ : Type} (f : α → Except ε β) (g : α → β → γ) (l : List α) :
    firstFailure (fun a => (f a).map (g a)) l = firstFailure f l := by
  unfold firstFailure
  simp only [failure?_map]

/-- A step along a list fails as it does on the first member on which it fails. -/
theorem mapM_eq_error_iff {f : α → Except ε β} {l : List α} {e : ε} :
    l.mapM f = .error e ↔ firstFailure f l = some e := by
  induction l with
  | nil => exact ⟨fun h => (nomatch h), fun h => (nomatch h)⟩
  | cons a l ih =>
    rw [List.mapM_cons, firstFailure_cons]
    cases f a with
    | error e' => simp [failure?, bind, Except.bind]
    | ok b =>
      rw [ok_bind, failure?, Option.none_or, ← ih]
      cases l.mapM f with
      | error e' => exact Iff.rfl
      | ok bs => exact ⟨fun h => (nomatch h), fun h => (nomatch h)⟩

/-- There is no failure along a list exactly if the step succeeds on every member. -/
theorem firstFailure_eq_none_iff {f : α → Except ε β} {l : List α} :
    firstFailure f l = none ↔ ∀ a ∈ l, ∃ b, f a = .ok b := by
  unfold firstFailure
  simp only [List.findSome?_eq_none_iff, failure?_eq_none_iff]

/-- What holds at the start and is kept by every step along a list holds at the end, if the steps succeed. -/
theorem of_foldlM_eq_ok {f : β → α → Except ε β} {l : List α} (P : β → Prop)
    (hstep : ∀ b a b', a ∈ l → P b → f b a = .ok b' → P b') {b b' : β} (hb : P b) (h : l.foldlM f b = .ok b') :
    P b' := by
  induction l generalizing b with
  | nil =>
    cases h
    exact hb
  | cons a l ih =>
    rw [List.foldlM_cons] at h
    obtain ⟨next, hnext, h⟩ := bind_eq_ok.1 h
    refine ih (fun b a b' ha => hstep b a b' (List.mem_cons_of_mem _ ha)) ?_ h
    exact hstep b a next (List.mem_cons_self ..) hb hnext

/-- Steps that each go along a list of their own go along these lists one after the other. -/
theorem foldlM_eq_flatMap {γ : Type} {f : β → α → Except ε β} {g : β → γ → Except ε β} {parts : α → List γ}
    {l : List α} (h : ∀ a ∈ l, ∀ b, f b a = (parts a).foldlM g b) (b : β) :
    l.foldlM f b = (l.flatMap parts).foldlM g b := by
  induction l generalizing b with
  | nil => rfl
  | cons a l ih =>
    rw [List.foldlM_cons, List.flatMap_cons, List.foldlM_append, h a (List.mem_cons_self ..)]
    exact bind_congr fun next => ih (fun a' ha' => h a' (List.mem_cons_of_mem _ ha')) next

/-- Steps that are steps on the images of a list. -/
theorem foldlM_eq_map {γ : Type} {f : β → α → Except ε β} {g : β → γ → Except ε β} {image : α → γ} {l : List α}
    (h : ∀ a ∈ l, ∀ b, f b a = g b (image a)) (b : β) : l.foldlM f b = (l.map image).foldlM g b := by
  rw [List.map_eq_flatMap]
  refine foldlM_eq_flatMap (fun a ha b => ?_) b
  rw [h a ha, List.foldlM_cons]
  exact (bind_pure _).symm

/-! ## Changes of a state -/

/-- Steps after a step that succeeds go on from what it leaves. -/
theorem bind_of_ok {σ : Type} {x : EStateM ε σ α} {f : α → EStateM ε σ β} {s s' : σ} {a : α} (h : x s = .ok a s') :
    (x >>= f) s = f a s' := by
  show EStateM.bind x f s = _
  unfold EStateM.bind
  rw [h]

/-- Steps after a step that fails are not done. -/
theorem bind_of_error {σ : Type} {x : EStateM ε σ α} {f : α → EStateM ε σ β} {s s' : σ} {e : ε}
    (h : x s = .error e s') : (x >>= f) s = .error e s' := by
  show EStateM.bind x f s = _
  unfold EStateM.bind
  rw [h]

/-! ## Lists of results -/

/-- If every member of a list has a result, then the list has a list of results. -/
theorem exists_map_eq_map_some {f : α → Option β} {P : β → Prop} {l : List α}
    (h : ∀ a ∈ l, ∃ b, f a = some b ∧ P b) :
    ∃ bs : List β, l.map f = bs.map some ∧ ∀ b ∈ bs, P b := by
  induction l with
  | nil => exact ⟨[], rfl, by simp⟩
  | cons a l ih =>
    obtain ⟨b, hb, hP⟩ := h a (List.mem_cons_self ..)
    obtain ⟨bs, hbs, hPs⟩ := ih fun a ha => h a (List.mem_cons_of_mem _ ha)
    refine ⟨b :: bs, by rw [List.map_cons, hb, hbs, List.map_cons], ?_⟩
    intro c hc
    rcases List.mem_cons.1 hc with rfl | hc
    · exact hP
    · exact hPs c hc

/-- Every member of a list with a list of results has one of them. -/
theorem exists_mem_of_map_eq_map_some {f : α → Option β} {l : List α} {bs : List β}
    (h : l.map f = bs.map some) {a : α} (ha : a ∈ l) : ∃ b ∈ bs, f a = some b := by
  have hmem : f a ∈ bs.map some := by
    rw [← h]
    exact List.mem_map_of_mem ha
  obtain ⟨b, hb, heq⟩ := List.mem_map.1 hmem
  exact ⟨b, hb, heq.symm⟩

/-- Lists that a function maps to the same list have the same values of it one by one. -/
theorem forall₂_of_map_eq {f : α → β} {l l' : List α} (h : l.map f = l'.map f) :
    List.Forall₂ (fun a b => f a = f b) l l' := by
  have hvalues : List.Forall₂ Eq (l.map f) (l'.map f) := by
    rw [h]
    exact List.forall₂_same.2 fun _ _ => rfl
  exact List.forall₂_map_right_iff.1 (List.forall₂_map_left_iff.1 hvalues)

end TextAnalysis
