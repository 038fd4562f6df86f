/-
# Parts of texts

Texts that start or end with a part, or have it somewhere, are this part with other texts around it. Comparisons differ
in what they allow around the key.
-/
import TextAnalysis.Dictionary.Matcher

namespace TextAnalysis

namespace Text

variable {text part : Text}

theorem startsWith_iff : text.startsWith part = true ↔ part <+: text := by
  unfold startsWith
  induction text, part using dropStart?.induct with
  | case1 text => simp [dropStart?]
  | case2 d part => simp [dropStart?]
  | case3 text d part ih =>
    rw [dropStart?, if_pos rfl, ih, List.cons_prefix_cons, eq_self, true_and]
  | case4 c text d part hne =>
    rw [dropStart?, if_neg hne, List.cons_prefix_cons]
    simp [Ne.symm hne]

theorem endsWith_iff : text.endsWith part = true ↔ part <:+ text := by
  unfold endsWith
  rw [startsWith_iff, List.reverse_prefix]

theorem occurs_iff : part.occurs text = true ↔ part <:+: text := by
  induction text with
  | nil => simp [occurs]
  | cons c text ih => rw [occurs, Bool.or_eq_true, startsWith_iff, ih, List.infix_cons_iff]

end Text

namespace Comparison

/-- What may stand in front of the key and behind it in a candidate. -/
def Allows (c : Comparison) (front back : Text) : Prop :=
  match c with
  | equals => front = [] ∧ back = []
  | startsWith => front = []
  | endsWith => back = []
  | contains => True

/-- A comparison holds of a candidate that is the key with something around it that the comparison allows. -/
theorem holds_iff {c : Comparison} {candidate key : Text} :
    c.holds candidate key = true ↔ ∃ front back, c.Allows front back ∧ front ++ key ++ back = candidate := by
  cases c with
  | equals =>
    rw [holds, beq_iff_eq]
    constructor
    · rintro rfl
      exact ⟨[], [], ⟨rfl, rfl⟩, List.append_nil _⟩
    · rintro ⟨_, _, ⟨rfl, rfl⟩, rfl⟩
      exact List.append_nil _
  | startsWith =>
    rw [holds, Text.startsWith_iff]
    constructor
    · rintro ⟨back, rfl⟩
      exact ⟨[], back, rfl, rfl⟩
    · rintro ⟨_, back, rfl, rfl⟩
      exact ⟨back, rfl⟩
  | endsWith =>
    rw [holds, Text.endsWith_iff]
    constructor
    · rintro ⟨front, rfl⟩
      exact ⟨front, [], rfl, List.append_nil _⟩
    · rintro ⟨front, _, rfl, rfl⟩
      exact ⟨front, (List.append_nil _).symm⟩
  | contains =>
    rw [holds, Text.occurs_iff]
    constructor
    · rintro ⟨front, back, rfl⟩
      exact ⟨front, back, trivial, rfl⟩
    · rintro ⟨front, back, -, rfl⟩
      exact ⟨front, back, rfl⟩

end Comparison

end TextAnalysis
