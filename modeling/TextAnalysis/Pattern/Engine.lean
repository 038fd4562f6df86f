/-
# The engine of this library

The patterns of this library make an engine. The matches of a machine stand in order: each ends at a place of
the text, not in front of its start, and the next one is looked for from there on.
-/
import TextAnalysis.Pattern.Property
import TextAnalysis.Pattern.Reader
import TextAnalysis.Pattern.Search
import TextAnalysis.PatternEngine

namespace TextAnalysis

/-! ## Matches in order -/

namespace Place

/-- The places of a text have the indices from the first one to the one after its last character. -/
theorem index_of_mem_listFrom {text : Text} {index : Nat} {before : Option Char} {place : Place}
    (h : place ∈ listFrom index before text) :
    index ≤ place.index ∧ place.index ≤ index + text.length := by
  induction text generalizing index before with
  | nil =>
    rw [List.mem_singleton.1 h]
    exact ⟨Nat.le_refl _, Nat.le_refl _⟩
  | cons c rest ih =>
    rcases List.mem_cons.1 h with rfl | h
    · exact ⟨Nat.le_refl _, Nat.le_add_right _ _⟩
    · have hrest := ih h
      rw [List.length_cons]
      omega

end Place

namespace Machine

variable (m : Machine)

/-- A machine ends at one of the places along which it goes, unless it keeps the end that was found before. -/
theorem mem_of_endFrom {places : List Place} {pending : List Nat} {found : Option Nat} {k : Nat}
    (h : m.endFrom places pending found = some k) :
    found = some k ∨ ∃ place ∈ places, place.index = k := by
  induction places generalizing pending found with
  | nil => exact .inl h
  | cons place places ih =>
    -- The end is noted anew at this place, or the one found before it is kept.
    have hend : ∀ (here : Prop) [Decidable here], (if here then some place.index else found) = some k →
        found = some k ∨ ∃ q ∈ place :: places, q.index = k := by
      intro here _ h
      split at h
      · exact .inr ⟨place, List.mem_cons_self .., Option.some.inj h⟩
      · exact .inl h
    unfold endFrom at h
    dsimp only at h
    split at h
    · exact hend _ h
    · rcases ih h with hfound | ⟨q, hq, hk⟩
      · exact hend _ hfound
      · exact .inr ⟨q, List.mem_cons_of_mem _ hq, hk⟩

theorem mem_of_matchEnd? {places : List Place} {k : Nat} (h : m.matchEnd? places = some k) :
    ∃ place ∈ places, place.index = k := by
  rcases m.mem_of_endFrom h with h | h
  · cases h
  · exact h

end Machine

/-- The matches of a machine along the places of a text stand in order. -/
theorem Machine.spaced_matchesFrom (m : Machine) {text : Text} {index : Nat} {before : Option Char}
    {resume : Nat} {ended : Option Nat} :
    Spaced (index + text.length) resume (m.matchesFrom resume ended (Place.listFrom index before text)) := by
  -- What is left to show at a place, once the matches that start behind it are known to stand in order.
  have hstep : ∀ (places : List Place) (place : Place) (finish : Nat) (resume : Nat) (ended : Option Nat),
      (∀ q ∈ place :: places, place.index ≤ q.index ∧ q.index ≤ finish) →
      (∀ resume ended, Spaced finish resume (m.matchesFrom resume ended places)) →
      Spaced finish resume (m.matchesFrom resume ended (place :: places)) := by
    intro places place finish resume ended hindex hrest
    unfold matchesFrom
    split
    · exact hrest _ _
    · split
      · exact hrest _ _
      · rename_i hresume _ k hend
        split
        · exact hrest _ _
        · obtain ⟨q, hq, rfl⟩ := m.mem_of_matchEnd? hend
          exact ⟨Nat.not_lt.1 hresume, (hindex q hq).1, (hindex q hq).2, hrest _ _⟩
  induction text generalizing index before resume ended with
  | nil => exact hstep [] _ _ _ _ (fun q hq => Place.index_of_mem_listFrom hq) fun _ _ => trivial
  | cons c rest ih =>
    refine hstep _ _ _ _ _ (fun q hq => Place.index_of_mem_listFrom hq) fun resume ended => ?_
    rw [List.length_cons, Nat.add_comm rest.length, ← Nat.add_assoc]
    exact ih

namespace Pattern

/-- The matches of a pattern stand in order within the text. -/
theorem spaced_matchesIn (p : Pattern) (text : Text) : Spaced text.length 0 (p.matchesIn text) := by
  have h : Spaced (0 + text.length) 0 (p.matchesIn text) := Machine.spaced_matchesFrom _
  rwa [Nat.zero_add] at h

end Pattern

/-! ## The engine -/

namespace Pattern

/-- A pattern with the matches that its machine finds. -/
def compiled (p : Pattern) : CompiledPattern where
  find text := (p.matchesIn text).map (ByteSpan.ofPositions text)
  occurs := p.occursIn
  ordered text := ByteSpan.ordered_map_ofPositions (p.spaced_matchesIn text)

/-- The engine that reads and searches patterns as this library does. -/
instance engine : PatternEngine where
  compile text :=
    match Pattern.read text with
    | .ok p => .ok p.compiled
    | .error e => .error e.message

end Pattern

end TextAnalysis
