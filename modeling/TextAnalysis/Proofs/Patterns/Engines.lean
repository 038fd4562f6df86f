/-
# Engines that follow the syntax

An engine follows the syntax of patterns if it accepts just the texts that write a pattern, up to limits of its own, and
finds matches of the pattern such that every other match starts inside of one of them. The engine of this library does:
its limits are the depth and the size of a pattern.
-/
import TextAnalysis.Pattern.Engine
import TextAnalysis.Proofs.Outcomes
import TextAnalysis.Proofs.Patterns.Searches

namespace TextAnalysis

namespace Pattern

section

variable [CharSet.Tables]

/-! ## Written patterns -/

/-- A text writes a pattern that matches the part of another text between two positions. -/
def WritesMatch (source text : Text) (start finish : Nat) : Prop :=
  ∃ x, syntaxOf source = .ok x ∧ x.1.Matches text start finish

theorem writesMatch_iff {source : Text} {x : Pattern × Nat} (h : syntaxOf source = .ok x) {text : Text}
    {start finish : Nat} : WritesMatch source text start finish ↔ x.1.Matches text start finish := by
  constructor
  · rintro ⟨y, hy, hmatches⟩
    cases h.symm.trans hy
    exact hmatches
  · intro hmatches
    exact ⟨x, h, hmatches⟩

end

end Pattern

open Pattern

/-! ## Engines -/

/-- An engine accepts just the texts that write a pattern and keep to some limits. What it makes of such a text occurs
in the texts of which the pattern matches a part. It finds matches of the pattern, and every match starts inside of one
of them or at an end of it. -/
structure PatternEngine.Follows [CharSet.Tables] [PatternEngine] (limits : Text → Prop) : Prop where
  compiles_iff : ∀ source, (∃ c, compile source = .ok c) ↔ (∃ x, syntaxOf source = .ok x) ∧ limits source
  occurs_iff : ∀ source c, compile source = .ok c → ∀ text,
    c.occurs text = true ↔ ∃ start finish, WritesMatch source text start finish
  finds : ∀ source c, compile source = .ok c → ∀ text, ∀ s ∈ c.find text,
    ∃ start finish, WritesMatch source text start finish ∧ s = ByteSpan.ofPositions text (start, finish)
  covers : ∀ source c, compile source = .ok c → ∀ text start finish, WritesMatch source text start finish →
    ∃ s ∈ c.find text, s.start ≤ text.byteOffset start ∧ text.byteOffset start ≤ s.finish

/-! ## The engine of this library -/

namespace Pattern

/-- A pattern with its depth is neither nested too deeply nor too large. -/
def Admitted (x : Pattern × Nat) : Prop :=
  x.2 ≤ depthLimit ∧ x.1.fits = true

/-- If a text writes a pattern, it is one within the limits. -/
def KeepsLimits (source : Text) : Prop :=
  ∀ x, syntaxOf source = .ok x → Admitted x

theorem keepsLimits_of_admitted {source : Text} {x : Pattern × Nat} (h : syntaxOf source = .ok x) (hx : Admitted x) :
    KeepsLimits source := by
  intro y hy
  cases h.symm.trans hy
  exact hx

/-- A text is read if it writes a pattern within the limits. -/
theorem read_eq_ok_iff {text : Text} {p : Pattern} :
    read text = .ok p ↔ ∃ d, syntaxOf text = .ok (p, d) ∧ Admitted (p, d) := by
  unfold read
  cases syntaxOf text with
  | error e =>
    constructor
    · intro h
      cases h
    · rintro ⟨d, h, -⟩
      cases h
  | ok x =>
    obtain ⟨q, d⟩ := x
    rw [ok_bind]
    constructor
    · intro h
      dsimp only at h
      split at h
      · cases h
      · rename_i hdepth
        split at h
        · rename_i hfits
          cases h
          exact ⟨d, rfl, Nat.le_of_not_lt hdepth, hfits⟩
        · cases h
    · rintro ⟨_, ⟨⟩, hdepth, hfits⟩
      dsimp only at hdepth hfits ⊢
      rw [if_neg (Nat.not_lt_of_le hdepth), if_pos hfits]
      rfl

/-- The engine accepts the texts that write a pattern within the limits, and searches with its machine. -/
theorem compile_eq_ok_iff {source : Text} {c : CompiledPattern} : PatternEngine.compile source = .ok c ↔
    ∃ x, syntaxOf source = .ok x ∧ Admitted x ∧ c = x.1.compiled := by
  have hread : PatternEngine.compile source = .ok c ↔ ∃ p, read source = .ok p ∧ c = p.compiled := by
    cases hp : read source with
    | ok p => simp [PatternEngine.compile, hp, eq_comm]
    | error e => simp [PatternEngine.compile, hp]
  rw [hread]
  simp only [read_eq_ok_iff]
  constructor
  · rintro ⟨p, ⟨d, hwritten, hadmitted⟩, rfl⟩
    exact ⟨(p, d), hwritten, hadmitted, rfl⟩
  · rintro ⟨x, hwritten, hadmitted, rfl⟩
    exact ⟨x.1, ⟨x.2, hwritten, hadmitted⟩, rfl⟩

/-- The engine of this library follows the syntax within its limits. -/
theorem follows_engine : PatternEngine.Follows KeepsLimits where
  compiles_iff source := by
    simp only [compile_eq_ok_iff]
    constructor
    · rintro ⟨_, x, hwritten, hadmitted, -⟩
      exact ⟨⟨x, hwritten⟩, keepsLimits_of_admitted hwritten hadmitted⟩
    · rintro ⟨⟨x, hwritten⟩, hlimits⟩
      exact ⟨_, x, hwritten, hlimits x hwritten, rfl⟩
  occurs_iff source c hc text := by
    obtain ⟨x, hwritten, -, rfl⟩ := compile_eq_ok_iff.1 hc
    simp only [writesMatch_iff hwritten]
    exact occursIn_iff
  finds source c hc text s hs := by
    obtain ⟨x, hwritten, -, rfl⟩ := compile_eq_ok_iff.1 hc
    obtain ⟨⟨start, finish⟩, hfound, rfl⟩ := List.mem_map.1 hs
    exact ⟨start, finish, (writesMatch_iff hwritten).2 (matches_of_mem hfound), rfl⟩
  covers source c hc text start finish hmatch := by
    obtain ⟨x, hwritten, -, rfl⟩ := compile_eq_ok_iff.1 hc
    obtain ⟨m, hfound, hle, hge⟩ := exists_mem_matchesIn ((writesMatch_iff hwritten).1 hmatch)
    exact ⟨_, List.mem_map_of_mem hfound, text.byteOffset_mono hle, text.byteOffset_mono hge⟩

end Pattern

end TextAnalysis
