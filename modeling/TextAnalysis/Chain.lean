/-
# Chains

A chain runs stages one after the other: what one stage makes is the input of the next, and the first
failure ends the run. A chain can be a stage of another chain, where it counts as one.
-/
import TextAnalysis.Error

namespace TextAnalysis

/-- A step of a computation that may fail. -/
abbrev Stage (α β : Type) :=
  α → Except Error β

/-- Stages in a row, with their number. -/
structure Chain (α β : Type) where
  stages : Nat
  run : Stage α β

namespace Chain

variable {α β γ : Type}

/-- The chain without stages. -/
def identity : Chain α α :=
  ⟨0, .ok⟩

/-- The chain of a single stage. -/
def create (stage : Stage α β) : Chain α β :=
  ⟨1, stage⟩

/-- A chain with one more stage at its end. -/
def append (c : Chain α β) (stage : Stage β γ) : Chain α γ :=
  ⟨c.stages + 1, fun input => c.run input >>= stage⟩

/-- The chain of a list of stages that keep the type. -/
def ofList (stages : List (Stage α α)) : Chain α α :=
  stages.foldl append identity

@[simp] theorem run_identity (input : α) : (identity : Chain α α).run input = .ok input :=
  rfl

@[simp] theorem run_create (stage : Stage α β) : (create stage).run = stage :=
  rfl

@[simp] theorem run_append (c : Chain α β) (stage : Stage β γ) (input : α) :
    (c.append stage).run input = c.run input >>= stage :=
  rfl

@[simp] theorem stages_append (c : Chain α β) (stage : Stage β γ) :
    (c.append stage).stages = c.stages + 1 :=
  rfl

end Chain

end TextAnalysis
