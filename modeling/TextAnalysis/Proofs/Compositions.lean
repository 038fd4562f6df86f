/-
# Compositions

However a chain is put together, from chains without stages, single stages, and stages or other chains that are appended
at any depth, running it is running its elementary stages from the first to the last. The first failure is the outcome,
and no later stage is called. Chains without stages make no difference wherever they stand. The number of stages of a
chain is the number of the parts on its own level, among which a whole chain counts as one.
-/
import TextAnalysis.Chain
import TextAnalysis.Proofs.Outcomes

universe u v

namespace TextAnalysis

variable {α β γ δ : Type}

/-! ## Runs with their calls -/

/-- A call of a stage on an input. -/
structure StageCall : Type 1 where
  {source target : Type}
  stage : Stage source target
  input : source

/-- The outcome of a run with the calls of stages that led to it, in order. -/
structure Traced (α : Type) : Type 1 where
  calls : List StageCall
  outcome : Except Error α

namespace Traced

/-- A run that calls nothing. -/
def done (a : α) : Traced α :=
  ⟨[], .ok a⟩

/-- A run that is one call. -/
def call (stage : Stage α β) (input : α) : Traced β :=
  ⟨[⟨stage, input⟩], stage input⟩

/-- Goes on from the result of a run. After a failure nothing more is called. -/
def andThen (t : Traced α) (next : α → Traced β) : Traced β :=
  match t.outcome with
  | .ok a => ⟨t.calls ++ (next a).calls, (next a).outcome⟩
  | .error e => ⟨t.calls, .error e⟩

theorem andThen_of_ok {t : Traced α} {a : α} (h : t.outcome = .ok a) (next : α → Traced β) :
    t.andThen next = ⟨t.calls ++ (next a).calls, (next a).outcome⟩ := by
  unfold andThen
  rw [h]

theorem andThen_of_error {t : Traced α} {e : Error} (h : t.outcome = .error e) (next : α → Traced β) :
    t.andThen next = ⟨t.calls, .error e⟩ := by
  unfold andThen
  rw [h]

@[simp] theorem andThen_done (t : Traced α) : t.andThen done = t := by
  obtain ⟨calls, outcome⟩ := t
  cases outcome with
  | ok a => exact congrArg (Traced.mk · (.ok a)) (List.append_nil calls)
  | error e => rfl

theorem andThen_assoc (t : Traced α) (f : α → Traced β) (g : β → Traced γ) :
    (t.andThen f).andThen g = t.andThen fun a => (f a).andThen g := by
  cases ht : t.outcome with
  | error e => rw [andThen_of_error ht, andThen_of_error ht, andThen_of_error rfl]
  | ok a =>
    rw [andThen_of_ok ht, andThen_of_ok ht]
    cases hf : (f a).outcome with
    | error e => rw [andThen_of_error rfl, andThen_of_error hf]
    | ok b =>
      rw [andThen_of_ok rfl, andThen_of_ok hf]
      exact congrArg (Traced.mk · _) (List.append_assoc ..)

/-- Without its calls, a run that goes on is two steps of which either may fail. -/
theorem outcome_andThen (t : Traced α) (next : α → Traced β) :
    (t.andThen next).outcome = t.outcome >>= fun a => (next a).outcome := by
  unfold andThen
  cases t.outcome with
  | ok a => rfl
  | error e => rfl

end Traced

/-! ## Steps in a row -/

/-- Steps in a row, each from the type at which the one before it ends. -/
inductive Steps (S : Type → Type → Type u) : Type → Type → Type (max 1 u) where
  | nil {α : Type} : Steps S α α
  | cons {α β γ : Type} (first : S α β) (rest : Steps S β γ) : Steps S α γ

namespace Steps

/-- The number of steps. -/
def length {S : Type → Type → Type u} {α β : Type} : Steps S α β → Nat
  | nil => 0
  | cons _ rest => rest.length + 1

/-- Further steps after given ones. -/
def append {S : Type → Type → Type u} {α β γ : Type} : Steps S α β → Steps S β γ → Steps S α γ
  | nil, more => more
  | cons first rest, more => cons first (rest.append more)

/-- Puts steps in the place of every step. -/
def flatMap {S : Type → Type → Type u} {T : Type → Type → Type v} (f : ∀ {α β : Type}, S α β → Steps T α β)
    {α β : Type} : Steps S α β → Steps T α β
  | nil => nil
  | cons first rest => (f first).append (rest.flatMap f)

section

variable {S : Type → Type → Type u} {T : Type → Type → Type v}

@[simp] theorem append_nil (steps : Steps S α β) : steps.append nil = steps := by
  induction steps with
  | nil => rfl
  | cons first rest ih => exact congrArg (cons first) ih

theorem append_assoc (front : Steps S α β) (middle : Steps S β γ) (back : Steps S γ δ) :
    (front.append middle).append back = front.append (middle.append back) := by
  induction front with
  | nil => rfl
  | cons first rest ih => exact congrArg (cons first) (ih middle)

@[simp] theorem length_append (front : Steps S α β) (back : Steps S β γ) :
    (front.append back).length = front.length + back.length := by
  induction front with
  | nil => exact (Nat.zero_add _).symm
  | cons first rest ih =>
    show (rest.append back).length + 1 = rest.length + 1 + back.length
    rw [ih]
    omega

theorem flatMap_append (f : ∀ {α β : Type}, S α β → Steps T α β) (front : Steps S α β) (back : Steps S β γ) :
    (front.append back).flatMap f = (front.flatMap f).append (back.flatMap f) := by
  induction front with
  | nil => rfl
  | cons first rest ih =>
    show (f first).append ((rest.append back).flatMap f) = ((f first).append (rest.flatMap f)).append (back.flatMap f)
    rw [ih, append_assoc]

end

/-! ## Running stages from left to right -/

/-- Runs stages one after the other. -/
def run {α β : Type} : Steps Stage α β → Stage α β
  | nil => .ok
  | cons first rest => fun input => first input >>= rest.run

/-- Runs stages one after the other, with their calls. -/
def trace {α β : Type} : Steps Stage α β → α → Traced β
  | nil => .done
  | cons first rest => fun input => (Traced.call first input).andThen rest.trace

/-- All stages succeed, each on the result of the one before it, with the calls. -/
inductive Passes : {α β : Type} → Steps Stage α β → α → List StageCall → β → Prop
  | nil {α : Type} (input : α) : Passes .nil input [] input
  | cons {α β γ : Type} {first : Stage α β} {rest : Steps Stage β γ} {input : α} {middle : β} {output : γ}
      {calls : List StageCall} (hfirst : first input = .ok middle) (hrest : Passes rest middle calls output) :
      Passes (.cons first rest) input (⟨first, input⟩ :: calls) output

/-- A stage fails after all stages in front of it have succeeded, and its call is the last one. -/
def Stops (steps : Steps Stage α β) (input : α) (calls : List StageCall) (e : Error) : Prop :=
  ∃ (γ δ : Type) (front : Steps Stage α γ) (failing : Stage γ δ) (back : Steps Stage δ β)
    (before : List StageCall) (middle : γ),
    steps = front.append (.cons failing back) ∧ front.Passes input before middle ∧
      failing middle = .error e ∧ calls = before ++ [⟨failing, middle⟩]

@[simp] theorem trace_append (front : Steps Stage α β) (back : Steps Stage β γ) (input : α) :
    (front.append back).trace input = (front.trace input).andThen back.trace := by
  induction front with
  | nil => rfl
  | cons first rest ih =>
    show (Traced.call first input).andThen (rest.append back).trace =
      ((Traced.call first input).andThen rest.trace).andThen back.trace
    rw [Traced.andThen_assoc]
    exact congrArg _ (funext fun middle => ih back middle)

theorem outcome_trace (steps : Steps Stage α β) (input : α) : (steps.trace input).outcome = steps.run input := by
  induction steps with
  | nil => rfl
  | cons first rest ih =>
    show ((Traced.call first input).andThen rest.trace).outcome = first input >>= rest.run
    rw [Traced.outcome_andThen]
    exact congrArg _ (funext fun middle => ih middle)

/-- The call of a stage that fails ends a run. -/
theorem trace_cons_of_error {first : Stage α β} {input : α} {e : Error} (h : first input = .error e)
    (rest : Steps Stage β γ) : (cons first rest).trace input = ⟨[⟨first, input⟩], .error e⟩ :=
  Traced.andThen_of_error (show (Traced.call first input).outcome = .error e from h) _

/-- A stage that succeeds hands its result over. -/
theorem trace_cons_of_ok {first : Stage α β} {input : α} {middle : β} (h : first input = .ok middle)
    (rest : Steps Stage β γ) :
    (cons first rest).trace input =
      ⟨⟨first, input⟩ :: (rest.trace middle).calls, (rest.trace middle).outcome⟩ :=
  Traced.andThen_of_ok (show (Traced.call first input).outcome = .ok middle from h) _

/-- A run succeeds exactly if all stages do. -/
theorem trace_eq_ok_iff {steps : Steps Stage α β} {input : α} {calls : List StageCall} {output : β} :
    steps.trace input = ⟨calls, .ok output⟩ ↔ steps.Passes input calls output := by
  constructor
  · intro h
    induction steps generalizing calls with
    | nil =>
      cases h
      exact .nil input
    | cons first rest ih =>
      cases hfirst : first input with
      | error e =>
        rw [trace_cons_of_error hfirst] at h
        cases h
      | ok middle =>
        rw [trace_cons_of_ok hfirst] at h
        obtain ⟨hcalls, houtcome⟩ := Traced.mk.inj h
        -- The calls of the rest are what is left of the calls after the first.
        have hrest : rest.trace middle = ⟨(rest.trace middle).calls, .ok output⟩ := by rw [← houtcome]
        rw [← hcalls]
        exact .cons hfirst (ih hrest)
  · intro h
    induction h with
    | nil input => rfl
    | cons hfirst _ ih => rw [trace_cons_of_ok hfirst, ih]

/-- A run fails exactly if a stage does on what the stages in front of it have made. -/
theorem trace_eq_error_iff {steps : Steps Stage α β} {input : α} {calls : List StageCall} {e : Error} :
    steps.trace input = ⟨calls, .error e⟩ ↔ steps.Stops input calls e := by
  constructor
  · intro h
    induction steps generalizing calls with
    | nil => cases h
    | cons first rest ih =>
      cases hfirst : first input with
      | error e' =>
        rw [trace_cons_of_error hfirst] at h
        cases h
        exact ⟨_, _, .nil, first, rest, [], input, rfl, .nil input, hfirst, rfl⟩
      | ok middle =>
        rw [trace_cons_of_ok hfirst] at h
        obtain ⟨hcalls, houtcome⟩ := Traced.mk.inj h
        have hrest : rest.trace middle = ⟨(rest.trace middle).calls, .error e⟩ := by rw [← houtcome]
        obtain ⟨_, _, front, failing, back, before, last, rfl, hfront, hfailing, hbefore⟩ := ih hrest
        -- The stage that has succeeded comes in front of those that did behind it.
        refine ⟨_, _, .cons first front, failing, back, ⟨first, input⟩ :: before, last, rfl,
          .cons hfirst hfront, hfailing, ?_⟩
        rw [← hcalls, hbefore]
        rfl
  · rintro ⟨_, _, front, failing, back, before, middle, rfl, hfront, hfailing, rfl⟩
    rw [trace_append, trace_eq_ok_iff.2 hfront, Traced.andThen_of_ok rfl, trace_cons_of_error hfailing]

/-- Without its calls, a run fails exactly if a stage does on what the stages in front of it have made. -/
theorem run_eq_error_iff {steps : Steps Stage α β} {input : α} {e : Error} :
    steps.run input = .error e ↔ ∃ calls, steps.Stops input calls e := by
  simp only [← trace_eq_error_iff, ← outcome_trace]
  constructor
  · intro h
    exact ⟨(steps.trace input).calls, by rw [← h]⟩
  · rintro ⟨calls, h⟩
    rw [h]

end Steps

/-! ## Compositions -/

mutual

/-- What can be a stage of a chain: an elementary stage, or a chain. -/
inductive Component : Type → Type → Type 1 where
  | elementary {α β : Type} (stage : Stage α β) : Component α β
  | chain {α β : Type} (c : Composition α β) : Component α β

/-- How a chain is put together. -/
inductive Composition : Type → Type → Type 1 where
  | identity {α : Type} : Composition α α
  | create {α β : Type} (p : Component α β) : Composition α β
  | append {α β γ : Type} (c : Composition α β) (p : Component β γ) : Composition α γ

end

mutual

/-- What is done where a component stands as a stage. -/
def Component.toStage {α β : Type} : Component α β → Stage α β
  | .elementary stage => stage
  | .chain c => c.toChain.run

/-- The chain that is put together. -/
def Composition.toChain {α β : Type} : Composition α β → Chain α β
  | .identity => .identity
  | .create p => .create p.toStage
  | .append c p => c.toChain.append p.toStage

end

mutual

/-- Runs a component with the calls of elementary stages. -/
def Component.trace {α β : Type} : Component α β → α → Traced β
  | .elementary stage => .call stage
  | .chain c => c.trace

/-- Runs a composition with the calls of elementary stages. -/
def Composition.trace {α β : Type} : Composition α β → α → Traced β
  | .identity => .done
  | .create p => p.trace
  | .append c p => fun input => (c.trace input).andThen p.trace

end

mutual

/-- The elementary stages of a component. -/
def Component.flatten {α β : Type} : Component α β → Steps Stage α β
  | .elementary stage => .cons stage .nil
  | .chain c => c.flatten

/-- The elementary stages of a composition, at whatever depth, in order. -/
def Composition.flatten {α β : Type} : Composition α β → Steps Stage α β
  | .identity => .nil
  | .create p => p.flatten
  | .append c p => c.flatten.append p.flatten

end

/-- The components on the level of a composition itself. -/
def Composition.components {α β : Type} : Composition α β → Steps Component α β
  | .identity => .nil
  | .create p => .cons p .nil
  | .append c p => c.components.append (.cons p .nil)

mutual

/-- One component is another in which chains without stages are put in, or a chain of its own with such chains in it. -/
inductive Component.Padded : {α β : Type} → Component α β → Component α β → Prop
  | elementary {α β : Type} (stage : Stage α β) : Component.Padded (.elementary stage) (.elementary stage)
  | chain {α β : Type} {c d : Composition α β} (h : c.Padded d) : Component.Padded (.chain c) (.chain d)
  | around {α β : Type} {p : Component α β} {d : Composition α β} (h : (Composition.create p).Padded d) :
      Component.Padded p (.chain d)

/-- One composition is another in which chains without stages are put in, at any places and depths. -/
inductive Composition.Padded : {α β : Type} → Composition α β → Composition α β → Prop
  | identity {α : Type} : Composition.Padded (.identity : Composition α α) .identity
  | create {α β : Type} {p q : Component α β} (h : p.Padded q) : Composition.Padded (.create p) (.create q)
  | append {α β γ : Type} {c d : Composition α β} {p q : Component β γ} (hfront : c.Padded d) (hlast : p.Padded q) :
      Composition.Padded (.append c p) (.append d q)
  | alone {α : Type} {e : Composition α α} (hempty : Composition.identity.Padded e) :
      Composition.Padded .identity (.create (.chain e))
  | inFront {α β : Type} {e : Composition α α} {p q : Component α β} (hempty : Composition.identity.Padded e)
      (h : p.Padded q) : Composition.Padded (.create p) (.append e q)
  | behind {α β : Type} {c d : Composition α β} {e : Composition β β} (h : c.Padded d)
      (hempty : Composition.identity.Padded e) : Composition.Padded c (.append d (.chain e))

end

/-! ## Running compositions -/

-- A component may be a composition of components, so every induction on the one goes along with one on the other.

mutual

/-- The calls do not change what a component does. -/
theorem Component.outcome_trace {α β : Type} (p : Component α β) (input : α) :
    (p.trace input).outcome = p.toStage input := by
  match p with
  | .elementary stage => rfl
  | .chain c => exact c.outcome_trace input

/-- The calls do not change what a composition does. -/
theorem Composition.outcome_trace {α β : Type} (c : Composition α β) (input : α) :
    (c.trace input).outcome = c.toChain.run input := by
  match c with
  | .identity => rfl
  | .create p => exact p.outcome_trace input
  | .append c p =>
    show ((c.trace input).andThen p.trace).outcome = c.toChain.run input >>= p.toStage
    rw [Traced.outcome_andThen, c.outcome_trace input]
    exact congrArg _ (funext fun middle => p.outcome_trace middle)

end

mutual

/-- A component calls its elementary stages from the first to the last. -/
theorem Component.trace_eq {α β : Type} (p : Component α β) : p.trace = p.flatten.trace := by
  match p with
  | .elementary stage =>
    funext input
    exact (Traced.andThen_done _).symm
  | .chain c => exact c.trace_eq

/-- A composition calls its elementary stages from the first to the last. -/
theorem Composition.trace_eq {α β : Type} (c : Composition α β) : c.trace = c.flatten.trace := by
  match c with
  | .identity => rfl
  | .create p => exact p.trace_eq
  | .append c p =>
    funext input
    show (c.trace input).andThen p.trace = (c.flatten.append p.flatten).trace input
    rw [Steps.trace_append, c.trace_eq, p.trace_eq]

end

mutual

/-- A component in which chains without stages are put in has the same elementary stages. -/
theorem Component.flatten_of_padded {α β : Type} {p q : Component α β} (h : p.Padded q) : q.flatten = p.flatten := by
  match h with
  | .elementary stage => rfl
  | .chain h => exact Composition.flatten_of_padded h
  | .around h => exact Composition.flatten_of_padded h

/-- A composition in which chains without stages are put in has the same elementary stages. -/
theorem Composition.flatten_of_padded {α β : Type} {c d : Composition α β} (h : c.Padded d) :
    d.flatten = c.flatten := by
  match h with
  | .identity => rfl
  | .create h => exact Component.flatten_of_padded h
  | .append hfront hlast =>
    exact congrArg₂ Steps.append (Composition.flatten_of_padded hfront) (Component.flatten_of_padded hlast)
  | .alone hempty =>
    have hflatten := Composition.flatten_of_padded hempty
    exact hflatten
  | .inFront hempty h =>
    exact congrArg₂ Steps.append (Composition.flatten_of_padded hempty) (Component.flatten_of_padded h)
  | .behind h hempty =>
    refine (congrArg₂ Steps.append (Composition.flatten_of_padded h) (Composition.flatten_of_padded hempty)).trans ?_
    exact Steps.append_nil _

end

namespace Composition

/-- Running a chain is running its elementary stages one after the other. -/
theorem run_toChain (c : Composition α β) (input : α) : c.toChain.run input = c.flatten.run input := by
  rw [← c.outcome_trace, c.trace_eq, Steps.outcome_trace]

/-- A chain fails exactly if one of its elementary stages does on what those in front of it have made. -/
theorem run_eq_error_iff {c : Composition α β} {input : α} {e : Error} :
    c.toChain.run input = .error e ↔ ∃ calls, c.flatten.Stops input calls e := by
  rw [c.run_toChain]
  exact Steps.run_eq_error_iff

theorem flatten_eq {α β : Type} (c : Composition α β) : c.flatten = c.components.flatMap Component.flatten := by
  match c with
  | identity => rfl
  | create p => exact (Steps.append_nil _).symm
  | append c p =>
    show c.flatten.append p.flatten = (c.components.append (.cons p .nil)).flatMap Component.flatten
    rw [Steps.flatMap_append, ← c.flatten_eq]
    exact congrArg _ (Steps.append_nil _).symm

theorem stages_toChain {α β : Type} (c : Composition α β) : c.toChain.stages = c.components.length := by
  match c with
  | identity => rfl
  | create p => rfl
  | append c p =>
    show c.toChain.stages + 1 = (c.components.append (.cons p .nil)).length
    rw [Steps.length_append, c.stages_toChain]
    rfl

/-- **Chains flatten.** However a chain is put together, it does what its elementary stages do from left to right. If
all of them succeed, each was called on the result of the one before it. If one fails, its error is the outcome and its
call is the last one, whatever stages come after it and however deep they are. Chains without stages that are put in
anywhere change neither the outcome nor the calls, and the number of stages is that of the components on the level of
the chain itself. -/
theorem run_leftToRight (c : Composition α β) (input : α) :
    c.toChain.run input = c.flatten.run input ∧
    (c.trace input).outcome = c.toChain.run input ∧
    (∀ calls output, c.trace input = ⟨calls, .ok output⟩ ↔ c.flatten.Passes input calls output) ∧
    (∀ calls e, c.trace input = ⟨calls, .error e⟩ ↔ c.flatten.Stops input calls e) ∧
    (∀ d : Composition α β, c.Padded d → d.toChain.run input = c.toChain.run input ∧ d.trace input = c.trace input) ∧
    c.flatten = c.components.flatMap Component.flatten ∧
    c.toChain.stages = c.components.length := by
  refine ⟨c.run_toChain input, c.outcome_trace input, fun calls output => ?_, fun calls e => ?_, fun d hd => ?_,
    c.flatten_eq, c.stages_toChain⟩
  · rw [c.trace_eq]
    exact Steps.trace_eq_ok_iff
  · rw [c.trace_eq]
    exact Steps.trace_eq_error_iff
  · have hflatten : d.flatten = c.flatten := flatten_of_padded hd
    constructor
    · rw [d.run_toChain, c.run_toChain, hflatten]
    · rw [d.trace_eq, c.trace_eq, hflatten]

/-- Takes one away. -/
def lessOne : Stage Int Int :=
  fun n => .ok (n - 1)

/-- Lets even numbers pass. -/
def evenOnly : Stage Int Int :=
  fun n => if n % 2 = 0 then .ok n else .error (.malformed (Text.ofInt n) .noWords)

/-- Takes one away, checks twice inside of a chain, and takes one away again. -/
def checked : Composition Int Int :=
  let inner : Composition Int Int :=
    .append (.append (.create (.elementary evenOnly)) (.elementary lessOne)) (.elementary evenOnly)
  .append (.append (.create (.elementary lessOne)) (.chain inner)) (.elementary lessOne)

/-- The same with a chain without stages in front, another one in the inner chain and a third one behind it. -/
def checkedPadded : Composition Int Int :=
  let inner : Composition Int Int :=
    .append (.append (.append (.create (.elementary evenOnly)) (.chain .identity)) (.elementary lessOne))
      (.elementary evenOnly)
  .append (.append (.append (.append .identity (.elementary lessOne)) (.chain inner))
    (.chain (.create (.chain .identity)))) (.elementary lessOne)

/-- The second check fails inside of the inner chain, and the last stage is not called. -/
theorem run_leftToRight_secondCheck :
    checked.Padded checkedPadded ∧
    checkedPadded.toChain.run 5 = .error (.malformed "3".toList .noWords) ∧
    (checkedPadded.trace 5).calls = [⟨lessOne, 5⟩, ⟨evenOnly, 4⟩, ⟨lessOne, 4⟩, ⟨evenOnly, 3⟩] ∧
    checked.toChain.stages = 3 := by
  have hpadded : checked.Padded checkedPadded :=
    .append (.behind (.append (.inFront .identity (.elementary lessOne))
      (.chain (.append (.append (.behind (.create (.elementary evenOnly)) .identity) (.elementary lessOne))
        (.elementary evenOnly)))) (.alone .identity)) (.elementary lessOne)
  obtain ⟨hrun, -, -, -, hsame, -, hstages⟩ := checked.run_leftToRight 5
  obtain ⟨hrunPadded, htrace⟩ := hsame checkedPadded hpadded
  refine ⟨hpadded, ?_, ?_, ?_⟩
  · rw [hrunPadded, hrun]
    rfl
  · rw [htrace]
    rfl
  · rw [hstages]
    rfl

end Composition

end TextAnalysis
