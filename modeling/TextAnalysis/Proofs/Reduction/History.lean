/-
# Earlier versions of the words of a reduced phrase

A word of a reduced phrase that stands for several words of the phrase before came to be by a last merge. It keeps what
its owner was before this merge: a version that stands for the first or the last part of the words, whose operand made
the number of the word. A word that stands for a single one keeps what that was before its operands were masked, if any
of them was, and is the same word otherwise.
-/
import TextAnalysis.Proofs.Reduction.Runs

namespace TextAnalysis

/-- The pending operand on a side of a value. -/
def Side.pending : Side → Numeral → Option Operand
  | left, n => n.left
  | right, n => n.right

/-- The operand by which two neighbours merge is one of the owner. -/
theorem Side.operand_eq_pending (side : Side) (a b : Numeral) : side.operand a b = side.pending (side.owner a b) := by
  cases side with
  | left => rfl
  | right => rfl

namespace Phrase

variable {size : Nat} {run : List (Word × Nat)} {w : Word} {n : Numeral}

/-! ## What words keep -/

/-- A word keeps the owner of its last merge: a version that stands for the part of its run before or behind a gap. The
operand of this version at the gap accepts a value, and applied to it makes the value of the word. -/
inductive KeepsOwner (size : Nat) : List (Word × Nat) → Word → Numeral → Prop
  | intro {side : Side} {before after : List (Word × Nat)} {tree : MergeTree} {w : Word} {version : Valued Numeral}
      {m n : Numeral} {o : Operand} {x : Int} (hbefore : before ≠ []) (hafter : after ≠ [])
      (hkept : w.before? merging = some version)
      (hstands : StandsFor size (side.owner before after) tree (.make version) m)
      (hpending : side.pending m = some o) (haccepts : o.accepts x = true) (happly : o.apply m.value x = .ok n.value) :
      KeepsOwner size (before ++ after) w n

/-- A word keeps what a word was before it was masked. If it lost an operand then the version before that is kept, and
otherwise nothing is different. All other versions are those that were there. -/
structure KeepsUnmasked (size : Nat) (wi : Word × Nat) (w : Word) : Prop where
  of_ne : maskedAt size wi ≠ wi.1.current.value? → w.before? masking = some wi.1.current
  of_eq : maskedAt size wi = wi.1.current.value? → w = wi.1
  others : ∀ revision, revision ≠ masking → w.before? revision = wi.1.before? revision

/-- A word stands for a run of words, and keeps the owner of its last merge or what the only word of the run was. -/
def Records (size : Nat) (run : List (Word × Nat)) (w : Word) : Prop :=
  ∃ tree n, StandsFor size run tree w n ∧ (2 ≤ run.length → KeepsOwner size run w n) ∧
    ∀ wi, run = [wi] → KeepsUnmasked size wi w

theorem Records.run_ne_nil (h : Records size run w) : run ≠ [] := by
  obtain ⟨tree, n, hstands, -⟩ := h
  exact hstands.run_ne_nil

/-- What a word stands for is a matter of its current version. -/
theorem StandsFor.make {tree : MergeTree} (h : StandsFor size run tree w n) :
    StandsFor size run tree (.make w.current) n :=
  ⟨h.value, h.text, h.positions, h.leaves, h.evaluates, h.kind, h.left, h.right⟩

theorem before?_revise (w : Word) (revision k : Nat) (version : Valued Numeral) :
    (w.revise revision version).before? k = if k = revision then some w.current else w.before? k :=
  Numbered.get?_put ..

/-! ## What masking and merging record -/

/-- A masked word records what it was. -/
theorem records_masked {index : Nat} {w' : Word} (h : maskWord size index w = .ok w') :
    Records size [(w, index)] w' := by
  obtain ⟨tree, n, hstands⟩ := standsFor_masked h
  refine ⟨tree, n, hstands, fun hlength => absurd hlength (by simp), fun wi hwi => ?_⟩
  obtain rfl := List.singleton_inj.1 hwi
  obtain ⟨m, hm, -, rfl⟩ := maskWord_eq_ok_iff.1 h
  have hmasked : maskedAt size (w, index) = some (masked size index m) := by
    unfold maskedAt
    rw [hm]
    rfl
  have hvalue : w.current.value? = some m.value := by
    unfold Valued.value?
    rw [hm]
    rfl
  -- The operands are the same ones exactly if the value is.
  have hsame : masked size index m = m.value ↔
      (masked size index m).left = m.value.left ∧ (masked size index m).right = m.value.right := by
    refine ⟨fun heq => by rw [heq]; exact ⟨rfl, rfl⟩, fun ⟨hleft, hright⟩ => ?_⟩
    show m.value.withOperands (masked size index m).left (masked size index m).right = m.value
    rw [hleft, hright]
    rfl
  unfold maskOperands
  constructor
  · intro hne
    rw [hmasked, hvalue, ne_eq, Option.some_inj, hsame] at hne
    rw [if_neg hne, before?_revise, if_pos rfl]
  · intro heq
    rw [hmasked, hvalue, Option.some_inj, hsame] at heq
    rw [if_pos heq]
  · intro revision hrevision
    split
    · rfl
    · rw [before?_revise, if_neg hrevision]

/-- The word that two neighbours make records its owner. -/
theorem records_joined {ru rv : List (Word × Nat)} {u v : Word} {a b : Numeral} {side : Side} {o : Operand} {x : Int}
    (hru : Records size ru u) (hrv : Records size rv v) (hu : u.current.value? = some a)
    (hv : v.current.value? = some b) (hside : mergeSide a b = some side) (ho : side.operand a b = some o)
    (hx : o.apply (side.owner a b).value (side.consumed a b).value = .ok x) :
    Records size (ru ++ rv) (joinedWord side u v (joinedValue a b x)) := by
  obtain ⟨tu, nu, hstandsu, -⟩ := hru
  obtain ⟨tv, nv, hstandsv, -⟩ := hrv
  obtain rfl : nu = a := Option.some.inj (hstandsu.value.symm.trans hu)
  obtain rfl : nv = b := Option.some.inj (hstandsv.value.symm.trans hv)
  -- A joined word has at least two words in its run, so nothing is claimed of a single one.
  have hlength : 2 ≤ (ru ++ rv).length := by
    have hposu := List.length_pos_of_ne_nil hstandsu.run_ne_nil
    have hposv := List.length_pos_of_ne_nil hstandsv.run_ne_nil
    rw [List.length_append]
    omega
  refine ⟨_, _, standsFor_joined hstandsu hstandsv hside ho hx, fun _ => ?_, fun wi hwi => ?_⟩
  · have hkept : (joinedWord side u v (joinedValue nu nv x)).before? merging = some (side.owner u v).current := by
      unfold joinedWord
      rw [before?_revise, if_pos rfl]
    have howner : StandsFor size (side.owner ru rv) (side.owner tu tv) (.make (side.owner u v).current)
        (side.owner nu nv) := by
      cases side with
      | left => exact hstandsv.make
      | right => exact hstandsu.make
    rw [side.operand_eq_pending] at ho
    exact .intro hstandsu.run_ne_nil hstandsv.run_ne_nil hkept howner ho (apply_eq_ok_iff.1 hx).1 hx
  · rw [hwi] at hlength
    exact absurd hlength (by simp)

/-! ## Reduced phrases -/

/-- **History of a reduced phrase.** The words of a phrase that reduces fall into consecutive runs, one for each word of
the reduced phrase, and every word stands for its run. A word that stands for two words or more keeps the owner of its
last merge: a version that stands for a proper beginning of the run, with a pending right operand, or for a proper end
of it, with a pending left one, and the value of the word is this operand applied to the value of the version and one
that the operand accepts. A word that stands for a single one keeps that one's version exactly if masking made a
difference to its operands, and has no other version than before. -/
theorem reduce_records {s t : Phrase} (h : s.reduce = .ok t) :
    ∃ runs : List (List (Word × Nat)), runs.flatten = s.tokens.zipIdx ∧ [] ∉ runs ∧
      List.Forall₂ (Records s.size) runs t.tokens := by
  obtain ⟨m, hmask, hmerges, -⟩ := merges_of_reduce h
  obtain ⟨ns, hns⟩ := exists_reads_of_mask hmask
  have hmasked : List.Forall₂ (Records s.size) (s.tokens.zipIdx.map fun wi => [wi]) m.tokens := by
    rw [List.forall₂_map_left_iff]
    exact (mask_eq_ok_iff.1 hmask).2.imp fun wi w' hw => records_masked hw
  obtain ⟨runs, hflatten, hruns⟩ := exists_runs_of_reflTransGen
    (fun ru rv u v a b side o x => records_joined) hmerges hns hmasked
  refine ⟨runs, ?_, fun hnil => ?_, hruns⟩
  · rw [hflatten, ← List.flatMap_def, List.flatMap_singleton']
  · obtain ⟨k, hk, hrun⟩ := List.mem_iff_getElem.1 hnil
    exact (hruns.get hk (hruns.length_eq ▸ hk)).run_ne_nil hrun

/-- The last merge of two hundred four-teen adds to two hundred, which the merged word keeps. -/
theorem reduce_records_twoHundredFourTeen :
    ∃ t, twoHundredFourTeen.reduce = .ok t ∧
      (t.tokens.map fun w => ((w.before? merging).bind (·.value?)).map (·.value)) = [some 200] ∧
      ∃ runs : List (List (Word × Nat)), runs.flatten = twoHundredFourTeen.tokens.zipIdx ∧ [] ∉ runs ∧
        List.Forall₂ (Records twoHundredFourTeen.size) runs t.tokens :=
  ⟨_, rfl, rfl, reduce_records rfl⟩

end Phrase

end TextAnalysis
