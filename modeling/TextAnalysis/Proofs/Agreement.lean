/-
# Computations that agree

Two computations agree if both succeed with related results, or both find a text malformed for the same reason,
whatever texts they name. So what agrees with itself fails for no other cause than a malformed text.
-/
import Mathlib.Data.List.Forall2
import TextAnalysis.Error
import TextAnalysis.Proofs.Outcomes

namespace TextAnalysis

variable {α β γ δ : Type}

/-- Both computations succeed with related results, or both report a malformed text with the same reason. -/
inductive Agree (R : α → β → Prop) : Except Error α → Except Error β → Prop
  | ok {a : α} {b : β} (h : R a b) : Agree R (.ok a) (.ok b)
  | malformed (t t' : Text) (r : Malformation) :
      Agree R (.error (.malformed t r)) (.error (.malformed t' r))

namespace Agree

variable {R : α → β → Prop} {S : γ → δ → Prop}

/-- What agrees with a success is a success. -/
theorem exists_left {x : Except Error α} {b : β} (h : Agree R x (.ok b)) : ∃ a, x = .ok a ∧ R a b := by
  cases h with
  | ok hab => exact ⟨_, rfl, hab⟩

/-- What goes on alike from related results agrees. -/
theorem bind {x : Except Error α} {y : Except Error β} (h : Agree R x y) {f : α → Except Error γ}
    {g : β → Except Error δ} (hfg : ∀ a b, R a b → Agree S (f a) (g b)) : Agree S (x >>= f) (y >>= g) := by
  cases h with
  | ok hab => exact hfg _ _ hab
  | malformed t t' r => exact .malformed t t' r

theorem map {x : Except Error α} {y : Except Error β} (h : Agree R x y) {f : α → γ} {g : β → δ}
    (hfg : ∀ a b, R a b → S (f a) (g b)) : Agree S (x.map f) (y.map g) := by
  cases h with
  | ok hab => exact .ok (hfg _ _ hab)
  | malformed t t' r => exact .malformed t t' r

/-- A step along two lists whose members are related one by one. -/
theorem mapM {Q : α → β → Prop} {l : List α} {l' : List β} (hl : List.Forall₂ Q l l') {f : α → Except Error γ}
    {g : β → Except Error δ} (hfg : ∀ a b, Q a b → Agree S (f a) (g b)) :
    Agree (List.Forall₂ S) (l.mapM f) (l'.mapM g) := by
  induction hl with
  | nil => exact .ok .nil
  | cons hab _ ih =>
    rw [List.mapM_cons, List.mapM_cons]
    refine (hfg _ _ hab).bind ?_
    intro c d hcd
    refine ih.bind ?_
    intro cs ds hcds
    exact .ok (.cons hcd hcds)

/-- Computations that agree still do if each says of a text of its own what it says of others. -/
theorem aboutText {x : Except Error α} {y : Except Error β} (h : Agree R x y) (t t' : Text) :
    (∃ a b, x.mapError (Error.aboutText t) = .ok a ∧ y.mapError (Error.aboutText t') = .ok b ∧ R a b) ∨
      ∃ r, x.mapError (Error.aboutText t) = .error (.malformed t r) ∧
        y.mapError (Error.aboutText t') = .error (.malformed t' r) := by
  cases h with
  | ok hab => exact .inl ⟨_, _, rfl, rfl, hab⟩
  | malformed _ _ r => exact .inr ⟨r, rfl, rfl⟩

end Agree

end TextAnalysis
