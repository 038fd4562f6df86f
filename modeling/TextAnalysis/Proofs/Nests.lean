/-
# Nested sequences

Sequences nest to any depth, with a delimiter of its own for each sequence. The text of a nest has the leaves in order,
and its length in characters is the length of the nest, which counts the leaves only, and the delimiters between the
children of every sequence in it.
-/
import Mathlib.Algebra.BigOperators.Group.List.Basic
import Mathlib.Algebra.GroupWithZero.Nat
import TextAnalysis.Sequence
import TextAnalysis.Token.Revised
import TextAnalysis.Token.Valued

namespace TextAnalysis

/-! ## Leaves -/

/-- Tokens whose length is the number of characters of their text. -/
class CountsCharacters (α : Type) [Token α] : Prop where
  length_eq (t : α) : Token.length t = (Token.text t).length

instance : CountsCharacters Fragment where
  length_eq _ := rfl

instance : CountsCharacters Gram where
  length_eq _ := rfl

instance {α : Type} : CountsCharacters (Valued α) where
  length_eq _ := rfl

instance {α : Type} [Token α] [CountsCharacters α] : CountsCharacters (Revised α) where
  length_eq r := CountsCharacters.length_eq r.current

/-! ## Nests -/

/-- What is put around leaves: sequences of them, and versions that are kept, to any depth. -/
inductive Nesting where
  | leaf
  | sequence (inner : Nesting)
  | revised (inner : Nesting)

/-- The tokens of a nesting over leaves of a type. -/
def Nest (α : Type) : Nesting → Type
  | .leaf => α
  | .sequence inner => Sequence (Nest α inner)
  | .revised inner => Revised (Nest α inner)

/-- The children of a sequence and the delimiter between them. -/
structure Joint where
  children : Nat
  delimiter : Text

/-- The characters of the delimiters between the children. -/
def Joint.characters (j : Joint) : Nat :=
  (j.children - 1) * j.delimiter.length

namespace Nest

variable {α : Type}

/-- A nest is a token. -/
instance token [Token α] : (nesting : Nesting) → Token (Nest α nesting)
  | .leaf => inferInstanceAs (Token α)
  | .sequence inner =>
    have := token inner
    inferInstanceAs (Token (Sequence (Nest α inner)))
  | .revised inner =>
    have := token inner
    inferInstanceAs (Token (Revised (Nest α inner)))

/-- The leaves of a nest, from left to right. -/
def leaves : (nesting : Nesting) → Nest α nesting → List α
  | .leaf, (t : α) => [t]
  | .sequence inner, (s : Sequence (Nest α inner)) => s.tokens.flatMap (leaves inner)
  | .revised inner, (r : Revised (Nest α inner)) => leaves inner r.current

/-- The joints of all sequences of a nest, at whatever depth. -/
def joints : (nesting : Nesting) → Nest α nesting → List Joint
  | .leaf, _ => []
  | .sequence inner, (s : Sequence (Nest α inner)) => ⟨s.size, s.delimiter⟩ :: s.tokens.flatMap (joints inner)
  | .revised inner, (r : Revised (Nest α inner)) => joints inner r.current

end Nest

/-! ## Parts of a text in order -/

/-- Parts stand in a text one behind the other, with anything in front of, between and behind them. -/
inductive StandInOrder : List Text → Text → Prop
  | nil (rest : Text) : StandInOrder [] rest
  | cons (gap part : Text) {parts : List Text} {rest : Text} (h : StandInOrder parts rest) :
      StandInOrder (part :: parts) (gap ++ (part ++ rest))

namespace StandInOrder

variable {parts parts' : List Text} {text text' : Text}

theorem single (text : Text) : StandInOrder [text] text := by
  have h := cons [] text (nil [])
  rwa [List.nil_append, List.append_nil] at h

theorem behind (front : Text) (h : StandInOrder parts text) : StandInOrder parts (front ++ text) := by
  cases h with
  | nil => exact nil _
  | cons gap part h =>
    rw [← List.append_assoc]
    exact cons (front ++ gap) part h

theorem append (h : StandInOrder parts text) (h' : StandInOrder parts' text') :
    StandInOrder (parts ++ parts') (text ++ text') := by
  induction h with
  | nil rest => exact h'.behind rest
  | cons gap part _ ih =>
    rw [List.append_assoc, List.append_assoc]
    exact cons gap part ih

/-- What stands in texts in order stands in the text that they are joined to. -/
theorem intercalate {τ : Type} {partsOf : τ → List Text} {textOf : τ → Text} (delimiter : Text) {l : List τ}
    (h : ∀ t ∈ l, StandInOrder (partsOf t) (textOf t)) :
    StandInOrder (l.flatMap partsOf) (delimiter.intercalate (l.map textOf)) := by
  induction l with
  | nil => exact nil _
  | cons t l ih =>
    obtain ⟨ht, hl⟩ := List.forall_mem_cons.1 h
    rw [List.flatMap_cons, List.map_cons]
    cases l with
    | nil =>
      rw [List.map_nil, List.intercalate_singleton, List.flatMap_nil, List.append_nil]
      exact ht
    | cons u l =>
      rw [List.intercalate_cons_of_ne_nil (by simp), List.append_assoc]
      exact ht.append ((ih hl).behind delimiter)

end StandInOrder

/-! ## Lengths -/

theorem length_intercalate (delimiter : Text) (texts : List Text) :
    (delimiter.intercalate texts).length =
      (texts.map List.length).sum + (texts.length - 1) * delimiter.length := by
  induction texts with
  | nil => simp
  | cons text texts ih =>
    cases texts with
    | nil => simp
    | cons next texts =>
      -- One text and one delimiter more than the texts behind it have.
      have hjoints : ((text :: next :: texts).length - 1) * delimiter.length =
          ((next :: texts).length - 1) * delimiter.length + delimiter.length := Nat.succ_mul ..
      have htexts : ((text :: next :: texts).map List.length).sum =
          text.length + ((next :: texts).map List.length).sum := List.sum_cons
      rw [List.intercalate_cons_cons, List.length_append, List.length_append, ih, hjoints, htexts]
      omega

/-- A sum along lists that stand one behind the other is the sum of their sums. -/
theorem sum_map_flatMap {τ β : Type} (f : τ → List β) (g : β → Nat) (l : List τ) :
    ((l.flatMap f).map g).sum = (l.map fun t => ((f t).map g).sum).sum := by
  rw [List.map_flatMap, List.flatMap_def, List.sum_flatten, List.map_map]
  rfl

/-- If every token of a sequence has some characters more than its length says, then the sequence has all of these more,
and the characters of the delimiters. -/
theorem Sequence.length_text {τ : Type} [Token τ] (s : Sequence τ) {more : τ → Nat}
    (h : ∀ t ∈ s.tokens, (Token.text t).length = Token.length t + more t) :
    s.text.length = s.length + ((⟨s.size, s.delimiter⟩ : Joint).characters + (s.tokens.map more).sum) := by
  have hlengths : s.tokens.map (fun t => (Token.text t).length) = s.tokens.map fun t => Token.length t + more t :=
    List.map_congr_left h
  have hlength : s.length = (s.tokens.map Token.length).sum := rfl
  have hjoint : (⟨s.size, s.delimiter⟩ : Joint).characters = (s.tokens.length - 1) * s.delimiter.length := rfl
  unfold Sequence.text
  rw [length_intercalate, List.length_map, List.map_map, Function.comp_def, hlengths, List.sum_map_add, hlength, hjoint]
  omega

namespace Nest

variable {α : Type} [Token α]

/-- A nest has as many characters as its length says and those of the delimiters between the children of its
sequences. -/
theorem length_text [CountsCharacters α] (nesting : Nesting) (t : Nest α nesting) :
    (Token.text t).length = Token.length t + ((joints nesting t).map Joint.characters).sum := by
  induction nesting with
  | leaf => exact (CountsCharacters.length_eq (α := α) t).symm
  | sequence inner ih =>
    have hstep := Sequence.length_text t fun u _ => ih u
    rw [← sum_map_flatMap] at hstep
    exact hstep
  | revised inner ih => exact ih t.current

/-- The length of a nest is that of its leaves. -/
theorem length_eq_sum (nesting : Nesting) (t : Nest α nesting) :
    Token.length t = ((leaves nesting t).map Token.length).sum := by
  induction nesting with
  | leaf => exact (Nat.add_zero _).symm
  | sequence inner ih =>
    show (t.tokens.map Token.length).sum = ((t.tokens.flatMap (leaves inner)).map Token.length).sum
    rw [sum_map_flatMap]
    exact congrArg List.sum (List.map_congr_left fun u _ => ih u)
  | revised inner ih => exact ih t.current

/-- The leaves of a nest stand in its text in order. -/
theorem standInOrder_leaves (nesting : Nesting) (t : Nest α nesting) :
    StandInOrder ((leaves nesting t).map Token.text) (Token.text t) := by
  induction nesting with
  | leaf => exact .single _
  | sequence inner ih =>
    show StandInOrder ((t.tokens.flatMap (leaves inner)).map Token.text) _
    rw [List.map_flatMap]
    exact .intercalate t.delimiter fun u _ => ih u
  | revised inner ih => exact ih t.current

/-- **Length and text of nested sequences agree.** Whatever delimiters the sequences of a nest have, the text of the
nest has as many characters as its length says and, for every sequence in it, one delimiter less than there are
children. The length is the number of characters of the leaves alone, and their texts stand in the text in order. -/
theorem text_length_leaves [CountsCharacters α] (inner : Nesting) (s : Sequence (Nest α inner)) :
    s.text.length = s.length + ((joints (.sequence inner) s).map fun j => (j.children - 1) * j.delimiter.length).sum ∧
    s.length = ((leaves (.sequence inner) s).map fun t => (Token.text t).length).sum ∧
    StandInOrder ((leaves (.sequence inner) s).map Token.text) s.text := by
  refine ⟨length_text (.sequence inner) s, ?_, standInOrder_leaves (.sequence inner) s⟩
  refine (length_eq_sum (.sequence inner) s).trans (congrArg List.sum (List.map_congr_left fun t _ => ?_))
  exact CountsCharacters.length_eq t

/-- Two letters, none, and one letter; between the three there are two characters each. -/
def letters : Sequence (Nest Fragment (.sequence .leaf)) :=
  let letter (c : Char) (position : Nat) : Fragment := ⟨[c], .single position, List.cons_ne_nil c []⟩
  let pair : Sequence Fragment := { tokens := [letter 'a' 0, letter 'ö' 1], delimiter := ['-'] }
  let empty : Sequence Fragment := { tokens := [], delimiter := ['+', '+', '+'] }
  let single : Sequence Fragment := { tokens := [letter 'c' 2], delimiter := ['-', '-'] }
  { tokens := [pair, empty, single], delimiter := [',', ' '] }

/-- Only the outer sequence and the first one inside have delimiters in the text. -/
theorem text_length_leaves_letters :
    letters.text = "a-ö, , c".toList ∧ letters.length = 3 ∧
      letters.text.length = 3 + (2 * 2 + (1 * 1 + (0 * 3 + (0 * 2 + 0)))) ∧
      StandInOrder [['a'], ['ö'], ['c']] letters.text := by
  obtain ⟨hlength, -, hleaves⟩ := text_length_leaves (.sequence .leaf) letters
  exact ⟨rfl, rfl, hlength, hleaves⟩

end Nest

end TextAnalysis
