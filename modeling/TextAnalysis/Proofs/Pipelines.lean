/-
# Parsing as a pipeline

A parser does the same as the chain that cuts a text, puts the tokens in order and goes on with the stages of the
parser: where the chain succeeds the result is changed last, and where it fails on a malformed text the failure is about
the text as it was given. It makes no difference how deep in a composition the failing stage is. Step by step, with
every call noted, nothing is called after a failure.
-/
import TextAnalysis.Proofs.Compositions
import TextAnalysis.TextParser
import TextAnalysis.Tokenizer.FixedLength

namespace TextAnalysis

namespace TextParser

variable {τ ρ : Type} [Token τ]

/-! ## The pipeline -/

/-- The chain of a parser: it cuts a text, puts the tokens in order and goes on with the stages of the parser. -/
def pipeline (p : TextParser τ ρ) : Chain Text ρ :=
  (Chain.create (Stage.tokenize p.cut)).append p.chain

theorem evaluate_eq (p : TextParser τ ρ) (text : Text) : p.evaluate text = p.pipeline.run text := by
  unfold evaluate pipeline
  rw [Chain.run_append, Chain.run_create, Stage.tokenize]
  cases p.cut text with
  | error e => rfl
  | ok tokens => rfl

/-- The pipeline fails if the text cannot be cut, or else as a stage does. -/
theorem run_pipeline_eq_error_iff (p : TextParser τ ρ) (text : Text) (e : Error) :
    p.pipeline.run text = .error e ↔
      p.cut text = .error e ∨ ∃ tokens, p.cut text = .ok tokens ∧ p.chain (Sequence.sorted tokens) = .error e := by
  rw [← evaluate_eq, evaluate]
  cases p.cut text with
  | error e' => simp [bind, Except.bind]
  | ok tokens => simp

/-! ## Calls -/

/-- What a parser calls, with what it hands over. -/
inductive Call (τ ρ : Type) where
  | before (text : Text)
  | cut (text : Text)
  | chain (s : Sequence τ)
  | after (result : ρ)

/-- Notes a call, whatever comes of it. -/
def calling {α : Type} (c : Call τ ρ) (outcome : Except Error α) : EStateM Error (List (Call τ ρ)) α :=
  fun calls =>
    match outcome with
    | .ok a => .ok a (calls ++ [c])
    | .error e => .error e (calls ++ [c])

/-- The first step: the text is changed. -/
def preparing (p : TextParser τ ρ) (text : Text) : EStateM Error (List (Call τ ρ)) Text :=
  match p.before with
  | some before => calling (.before text) (.ok (before text))
  | none => pure text

/-- The steps that may fail: a text is cut, and its tokens go through the stages. -/
def evaluating (p : TextParser τ ρ) (text : Text) : EStateM Error (List (Call τ ρ)) ρ := do
  let tokens ← calling (.cut text) (p.cut text)
  let s := Sequence.sorted tokens
  calling (.chain s) (p.chain s)

/-- The last step: the result is changed. -/
def finishing (p : TextParser τ ρ) (result : ρ) : EStateM Error (List (Call τ ρ)) ρ :=
  match p.after with
  | some after => calling (.after result) (.ok (after result))
  | none => pure result

/-- Parses a text step by step, and notes the calls. -/
def steps (p : TextParser τ ρ) (text : Text) : EStateM Error (List (Call τ ρ)) ρ := do
  let prepared ← p.preparing text
  let result ← EStateM.adaptExcept (Error.aboutText text) (p.evaluating prepared)
  p.finishing result

/-- The results that were handed over to be changed. -/
def changed (calls : List (Call τ ρ)) : List ρ :=
  calls.filterMap fun
    | .after result => some result
    | _ => none

section

variable {calls : List (Call τ ρ)}

omit [Token τ] in
/-- Only calls that change a result count. -/
theorem changed_concat (calls : List (Call τ ρ)) (c : Call τ ρ) :
    changed (calls ++ [c]) = changed calls ++ changed [c] :=
  List.filterMap_append

omit [Token τ] in
theorem exists_preparing (p : TextParser τ ρ) (text : Text) :
    ∃ calls, p.preparing text [] = .ok (p.prepare text) calls ∧ changed calls = [] := by
  unfold preparing prepare
  cases p.before with
  | some before => exact ⟨[.before text], rfl, rfl⟩
  | none => exact ⟨[], rfl, rfl⟩

/-- The steps that may fail end as the pipeline does, and change no result. -/
theorem exists_evaluating (p : TextParser τ ρ) (text : Text) (hcalls : changed calls = []) :
    ∃ calls', changed calls' = [] ∧ p.evaluating text calls =
      match p.pipeline.run text with
      | .ok result => .ok result calls'
      | .error e => .error e calls' := by
  have hcut : changed (calls ++ [.cut text]) = [] := by rw [changed_concat, hcalls]; rfl
  rw [← evaluate_eq, evaluate, evaluating]
  cases p.cut text with
  | error e => exact ⟨_, hcut, rfl⟩
  | ok tokens =>
    refine ⟨calls ++ [.cut text] ++ [.chain (Sequence.sorted tokens)], by rw [changed_concat, hcut]; rfl, ?_⟩
    rw [ok_bind, bind_of_ok (show calling _ _ calls = .ok tokens (calls ++ [.cut text]) from rfl)]
    unfold calling
    cases p.chain (Sequence.sorted tokens) with
    | error e => rfl
    | ok result => rfl

omit [Token τ] in
theorem exists_finishing (p : TextParser τ ρ) (result : ρ) (hcalls : changed calls = []) :
    ∃ calls', p.finishing result calls = .ok (p.after.getD id result) calls' ∧
      changed calls' = p.after.toList.map fun _ => result := by
  unfold finishing
  cases p.after with
  | none => exact ⟨calls, rfl, hcalls⟩
  | some after => exact ⟨calls ++ [.after result], rfl, by rw [changed_concat, hcalls]; rfl⟩

end

/-- An outcome with the calls that led to it. -/
def withCalls (outcome : Except Error ρ) (calls : List (Call τ ρ)) : EStateM.Result Error (List (Call τ ρ)) ρ :=
  match outcome with
  | .ok result => .ok result calls
  | .error e => .error e calls

/-- Step by step the outcome is the same. What the pipeline yields is changed once if at all, and nothing is changed
after a failure. -/
theorem exists_steps (p : TextParser τ ρ) (text : Text) :
    ∃ calls, p.steps text [] = withCalls (p.parse text) calls ∧
      changed calls = match p.pipeline.run (p.prepare text) with
        | .ok result => p.after.toList.map fun _ => result
        | .error _ => [] := by
  obtain ⟨calls, hprepared, hcalls⟩ := p.exists_preparing text
  obtain ⟨calls', hcalls', hrun⟩ := p.exists_evaluating (p.prepare text) hcalls
  unfold steps parse
  rw [bind_of_ok hprepared, evaluate_eq]
  cases h : p.pipeline.run (p.prepare text) with
  | error e =>
    rw [h] at hrun
    -- The failure is said of the text, and nothing is called after it.
    have hfailed : EStateM.adaptExcept (Error.aboutText text) (p.evaluating (p.prepare text)) calls =
        .error (e.aboutText text) calls' := by
      unfold EStateM.adaptExcept
      rw [hrun]
    exact ⟨calls', bind_of_error hfailed, hcalls'⟩
  | ok result =>
    rw [h] at hrun
    have hdone : EStateM.adaptExcept (Error.aboutText text) (p.evaluating (p.prepare text)) calls =
        .ok result calls' := by
      unfold EStateM.adaptExcept
      rw [hrun]
    obtain ⟨calls'', hfinished, hchanged⟩ := p.exists_finishing result hcalls'
    exact ⟨calls'', (bind_of_ok hdone).trans hfinished, hchanged⟩

/-! ## Parsing -/

/-- **Parsing is the pipeline.** Whatever cuts a text and however the chain is put together, the outcome of parsing is
that of the pipeline on the prepared text: a result is changed last, the reason of a malformed text is said of the text
as it was given, and every other failure is the answer as it is. The pipeline fails if the prepared text cannot be cut,
or else as an elementary stage does, at whatever depth, on what the stages in front of it have made. Step by step it is
the same, and a result is changed only where the pipeline succeeds. -/
theorem parse_pipeline (cut : Text → Except Error (List τ)) (c : Composition (Sequence τ) ρ)
    (before : Option (Text → Text)) (after : Option (ρ → ρ)) (text : Text) :
    let p : TextParser τ ρ := { cut, chain := c.toChain.run, before, after }
    let prepared := (before.getD id) text
    p.pipeline = (Chain.create (Stage.tokenize cut)).append c.toChain.run ∧
    p.parse text = (match p.pipeline.run prepared with
      | .ok result => .ok ((after.getD id) result)
      | .error (.malformed _ reason) => .error (.malformed text reason)
      | .error e => .error e) ∧
    (∀ e, p.pipeline.run prepared = .error e ↔
      cut prepared = .error e ∨ ∃ tokens, cut prepared = .ok tokens ∧
        ∃ calls, c.flatten.Stops (Sequence.sorted tokens) calls e) ∧
    ∃ calls, p.steps text [] = withCalls (p.parse text) calls ∧
      changed calls = match p.pipeline.run prepared with
        | .ok result => after.toList.map fun _ => result
        | .error _ => [] := by
  intro p prepared
  refine ⟨rfl, ?_, fun e => ?_, p.exists_steps text⟩
  · unfold parse
    rw [evaluate_eq]
    show ((p.pipeline.run prepared).mapError _).map _ = _
    cases p.pipeline.run prepared with
    | ok result => rfl
    | error e =>
      -- The wording depends on the failure: only of a malformed text the reason is said anew.
      cases e with
      | malformed about reason => rfl
      | unsupportedLocale locale => rfl
      | argument e => rfl
      | configuration e => rfl
      | cursor e => rfl
  · refine (run_pipeline_eq_error_iff p prepared e).trans (or_congr_right (exists_congr fun tokens => ?_))
    exact and_congr_right fun _ => c.run_eq_error_iff

/-- Counts the characters of a text after the first one, of which none may be a full stop; the check is a stage of a
chain in a chain. -/
def counter : TextParser Fragment Nat :=
  let noFullStop : Composition (Sequence Fragment) (Sequence Fragment) :=
    .append .identity (.elementary (Stage.ensureNone (·.text == ['.']) .noWords))
  let count : Composition (Sequence Fragment) Nat := .append noFullStop (.elementary fun s => .ok s.size)
  { cut := (⟨1, Nat.one_pos⟩ : FixedLength).tokenize
    chain := (Composition.append .identity (.chain count)).toChain.run
    before := some (·.tail)
    after := some (10 * ·) }

/-- The failure is about the text as it was given, with its first character. -/
example : counter.parse "aab".toList = .ok 20 ∧ counter.parse "ab.".toList = .error (.malformed "ab.".toList .noWords) :=
  ⟨rfl, rfl⟩

end TextParser

end TextAnalysis
