/-
# Stages over sequences

The stages that chains over sequences of tokens are made of: mapping, translating through a dictionary,
removing, checking, and changing tokens in place.
-/
import TextAnalysis.Chain
import TextAnalysis.Sequence.Sweep
import TextAnalysis.Token.Valued
import TextAnalysis.Token.Revised
import TextAnalysis.Dictionary

namespace TextAnalysis.Stage

variable {α β : Type}

/-! ## Making and mapping sequences -/

/-- Cuts a text into tokens, in the order of their positions. -/
def tokenize [Token α] (cut : Text → Except Error (List α)) : Stage Text (Sequence α) :=
  fun text => (cut text).map Sequence.sorted

/-- Maps every token. -/
def map (f : α → Except Error β) : Stage (Sequence α) (Sequence β) :=
  Sequence.tryMap f

/-! ## Translating -/

/-- Gives a meaning to every token for whose text there is one. The token before it is kept under
`revision`. -/
def translateBy (find : Text → Except Error (Option (Meaning α))) (revision : Nat) :
    Stage (Sequence (Revised (Valued α))) (Sequence (Revised (Valued α))) :=
  Sequence.visit fun _ t => do
    match ← find t.current.text with
    | some m => return t.revise revision (t.current.resolve m.value m.association)
    | none => return t

/-- What an entry says about the text of its key. -/
def meaning (e : Entry α) : Meaning α :=
  ⟨e.value, e.association⟩

/-- Translates tokens by the entry whose key is their text. -/
def translate (d : Dictionary α) (revision : Nat) :
    Stage (Sequence (Revised (Valued α))) (Sequence (Revised (Valued α))) :=
  translateBy (fun text => .ok ((d.lookup? text).map meaning)) revision

/-- Translates tokens by the entry whose key matches their text best. -/
def translateWith [PatternEngine] (d : Dictionary α) (m : Matcher) (revision : Nat) :
    Stage (Sequence (Revised (Valued α))) (Sequence (Revised (Valued α))) :=
  translateBy (fun text => (d.matching text m).map fun found => found.best.map (meaning ·.entry))
    revision

/-! ## Removing -/

/-- Removes the tokens that satisfy a predicate. -/
def remove (p : α → Bool) : Stage (Sequence α) (Sequence α) :=
  fun s => (Id.run (s.removeM fun t => pure (p t))).mapError .cursor

/-- Keeps the tokens that satisfy a predicate. -/
def retain (p : α → Bool) : Stage (Sequence α) (Sequence α) :=
  remove fun t => !p t

/-- Whether the text of a token matches a key. The first failure is noted, and after a failure the
answer is `otherwise`. -/
def matchesOr [PatternEngine] [Token α] (m : Matcher) (key : Text) (otherwise : Bool) (t : α) :
    StateM (Option Error) Bool :=
  fun noted =>
    match m.isMatch (Token.text t) key with
    | .ok b => (b, noted)
    | .error e => (otherwise, noted.or (some e))

/-- Removes the tokens that satisfy a predicate which notes its first failure; that failure is the
answer. -/
def removeNoting (p : α → StateM (Option Error) Bool) : Stage (Sequence α) (Sequence α) :=
  fun s =>
    match (s.removeM p).run none with
    | (.error e, _) => .error (.cursor e)
    | (.ok _, some e) => .error e
    | (.ok s, none) => .ok s

/-- Removes the tokens whose text matches a key. -/
def removeMatching [PatternEngine] [Token α] (m : Matcher) (key : Text) : Stage (Sequence α) (Sequence α) :=
  removeNoting (matchesOr m key false)

/-- Keeps the tokens whose text matches a key. -/
def retainMatching [PatternEngine] [Token α] (m : Matcher) (key : Text) : Stage (Sequence α) (Sequence α) :=
  removeNoting fun t => return !(← matchesOr m key true t)

/-! ## Checking -/

/-- Lets a sequence pass if its tokens satisfy a condition; otherwise its text is malformed. -/
def ensure [Token α] (holds : List α → Bool) (reason : Malformation) :
    Stage (Sequence α) (Sequence α) :=
  fun s => if holds s.tokens then .ok s else .error (.malformed s.text reason)

/-- Requires a predicate of every token. -/
def ensureAll [Token α] (p : α → Bool) (reason : Malformation) : Stage (Sequence α) (Sequence α) :=
  ensure (·.all p) reason

/-- Requires a predicate of at least one token. -/
def ensureAny [Token α] (p : α → Bool) (reason : Malformation) : Stage (Sequence α) (Sequence α) :=
  ensure (·.any p) reason

/-- Forbids a predicate of every token. -/
def ensureNone [Token α] (p : α → Bool) (reason : Malformation) :
    Stage (Sequence α) (Sequence α) :=
  ensure (fun tokens => !tokens.any p) reason

/-! ## Changing in place -/

/-- Changes every token. -/
def forEach (f : α → α) : Stage (Sequence α) (Sequence α) :=
  Sequence.visit fun _ t => .ok (f t)

/-- Changes every token in one of two ways. -/
def conditional (p : α → Bool) (f g : α → α) : Stage (Sequence α) (Sequence α) :=
  forEach fun t => if p t then f t else g t

end TextAnalysis.Stage
