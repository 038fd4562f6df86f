/-
# Rounds of a reduction

A reduction always comes to an end of its own. Every merge takes one word away, and there is no merge in a phrase of
a single word, so fewer merges are tried than there are words, and the limit on the rounds is never met. What can
fail on the way is a word that cannot be masked or an operand that rejects its neighbour.
-/
import TextAnalysis.Proofs.Reduction.Merging

namespace TextAnalysis.Phrase

/-! ## Merging without a limit -/

/-- From a phrase, `k` merges are tried one after the other, each of the pair that goes first, until no pair is
left or a merge fails. What comes out is the last phrase, or the failure. -/
inductive Series : Phrase → Nat → Except Error Phrase → Prop
  | done {p : Phrase} (hend : p.nextCandidate = .ok none) : Series p 0 (.ok p)
  | fail {p : Phrase} {c : Candidate} {e : Error} (hc : p.nextCandidate = .ok (some c))
      (he : p.merge c = .error e) : Series p 1 (.error e)
  | step {p q : Phrase} {c : Candidate} {k : Nat} {r : Except Error Phrase}
      (hc : p.nextCandidate = .ok (some c)) (hq : p.merge c = .ok q) (hrest : Series q k r) :
      Series p (k + 1) r

/-- Where a pair can merge there are two words. -/
theorem two_le_size_of_nextCandidate {p : Phrase} {ns : List Numeral} (hns : p.Reads ns) {c : Candidate}
    (hc : p.nextCandidate = .ok (some c)) : 2 ≤ p.size := by
  obtain ⟨l, a, b, r, -, hsplit, -⟩ := exists_of_nextCandidate hns hc
  have hlength : ns.length = p.size := hns.length_eq
  rw [hsplit, List.length_append, List.length_cons, List.length_cons] at hlength
  omega

/-- Fewer merges are tried than there are words. -/
theorem Series.le_size {p : Phrase} {k : Nat} {r : Except Error Phrase} (h : Series p k r)
    {ns : List Numeral} (hns : p.Reads ns) : k ≤ p.size - 1 := by
  induction h generalizing ns with
  | done => exact Nat.zero_le _
  | fail hc =>
    have htwo := two_le_size_of_nextCandidate hns hc
    omega
  | step hc hq _ ih =>
    have htwo := two_le_size_of_nextCandidate hns hc
    have hsize := size_of_merges hns ⟨_, hc, hq⟩
    obtain ⟨ns', -, hns'⟩ := exists_joins_of_merges ⟨_, hc, hq⟩ hns
    have hle := ih hns'
    omega

/-- Rounds that are as many as the words make a series of merges that comes to its end. -/
theorem exists_series {rounds : Nat} {p : Phrase} {ns : List Numeral} (hns : p.Reads ns)
    (hpos : 0 < rounds) (hrounds : p.size ≤ rounds) : ∃ k, Series p k (reduceWithin rounds p) := by
  induction rounds generalizing p ns with
  | zero => exact absurd hpos (Nat.lt_irrefl 0)
  | succ rounds ih =>
    obtain ⟨found, hfound⟩ : ∃ found, p.nextCandidate = .ok found := ⟨_, nextCandidate_eq hns⟩
    unfold reduceWithin
    rw [hfound, ok_bind]
    cases found with
    | none => exact ⟨0, .done hfound⟩
    | some c =>
      show ∃ k, Series p k (p.merge c >>= reduceWithin rounds)
      cases hq : p.merge c with
      | error e => exact ⟨1, .fail hfound hq⟩
      | ok q =>
        -- One word is gone, and at least one is left.
        have htwo := two_le_size_of_nextCandidate hns hfound
        have hsize := size_of_merges hns ⟨c, hfound, hq⟩
        obtain ⟨ns', -, hns'⟩ := exists_joins_of_merges ⟨c, hfound, hq⟩ hns
        obtain ⟨k, hk⟩ := ih hns' (by omega) (by omega)
        exact ⟨k + 1, .step hfound hq hk⟩

/-! ## Failures -/

/-- The ways in which the reduction of a phrase fails: a word of it has no meaning, a modifier in it acts on no
neighbour or has no operand, or an operand rejects a value or makes one that is too large. -/
inductive Failure (s : Phrase) : Error → Prop
  | untranslated {w : Word} (hw : w ∈ s.tokens) (hmeaning : w.current.meaning = none) :
      Failure s (.malformed w.current.text .untranslatedWord)
  | noNeighbour {w : Word} {m : Meaning Numeral} (hw : w ∈ s.tokens) (hmeaning : w.current.meaning = some m)
      (hmod : m.value.isModifier = true) : Failure s (.malformed w.current.text .modifierWithoutNeighbour)
  | noOperand {w : Word} {m : Meaning Numeral} (hw : w ∈ s.tokens) (hmeaning : w.current.meaning = some m)
      (hmod : m.value.isModifier = true) : Failure s (.malformed w.current.text .modifierWithoutOperand)
  | rejected {o : Operand} {x y : Int} (hrejects : ¬ (o.low ≤ y ∧ y ≤ o.high)) :
      Failure s (.malformed (Text.ofInt y) (.operandRejects x o.operation y o.low o.high))
  | overflow {o : Operand} {x y : Int} (hrange : ¬ Integer64.holds (o.operation.eval x y) = true) :
      Failure s (.malformed (Text.ofInt y) (.overflow x o.operation y))

/-- An operand that cannot be applied rejects the value or makes one that is too large. -/
theorem failure_of_apply {s : Phrase} {o : Operand} {x y : Int} {e : Error} (h : o.apply x y = .error e) :
    Failure s e := by
  unfold Operand.apply at h
  by_cases haccepts : o.accepts y = true
  · by_cases hholds : Integer64.holds (o.operation.eval x y) = true
    · simp [haccepts, hholds] at h
    · simp only [haccepts, hholds, Bool.not_true, Bool.not_false, Bool.false_eq_true, if_false, if_true,
        Except.error.injEq] at h
      subst h
      exact .overflow hholds
  · simp only [haccepts, Bool.not_false, if_true, Except.error.injEq] at h
    subst h
    exact .rejected (mt accepts_iff.2 haccepts)

/-- A phrase that cannot be masked fails in one of these ways. -/
theorem failure_of_mask {s : Phrase} {e : Error} (h : s.mask = .error e) : Failure s e := by
  obtain ⟨w, hw, i, he⟩ := exists_of_mask_eq_error h
  rcases maskWord_error_cases he with ⟨hmeaning, rfl⟩ | ⟨m, hmeaning, hmod, rfl | rfl⟩
  · exact .untranslated hw hmeaning
  · exact .noNeighbour hw hmeaning hmod
  · exact .noOperand hw hmeaning hmod

/-- The merge of the pair that goes first fails only by its operand: both words are there and have values, the
cursor stands where it must, and the merged text is not empty. -/
theorem failure_of_merge {s p : Phrase} {ns : List Numeral} (hns : p.Reads ns) {c : Candidate}
    (hc : p.nextCandidate = .ok (some c)) {e : Error} (h : p.merge c = .error e) : Failure s e := by
  obtain ⟨nl, a, b, nr, side, rfl, hside, rfl, -⟩ := exists_of_nextCandidate hns hc
  obtain ⟨l, u, v, r, hp, hlength, -, -, hu, hv⟩ := exists_words_of_values hns
  obtain ⟨o, ho⟩ := exists_operand_of_mergeSide hside
  rw [← hlength, merge_eq _ hp hu hv ho, map_eq_error] at h
  exact failure_of_apply h

/-- A series of merges fails only by an operand. -/
theorem Series.failure {s p : Phrase} {k : Nat} {r : Except Error Phrase} (h : Series p k r)
    {ns : List Numeral} (hns : p.Reads ns) {e : Error} (he : r = .error e) : Failure s e := by
  induction h generalizing ns with
  | done => cases he
  | fail hc hmerge =>
    cases he
    exact failure_of_merge hns hc hmerge
  | step hc hq _ ih =>
    obtain ⟨ns', -, hns'⟩ := exists_joins_of_merges ⟨_, hc, hq⟩ hns
    exact ih hns' he

/-! ## Reductions -/

/-- A reduction is a masking and then a series of merges. -/
theorem reduce_eq_of_mask {s m : Phrase} (h : s.mask = .ok m) :
    s.reduce = reduceWithin (3 * m.size + 1) m := by
  unfold reduce
  rw [h, ok_bind]

/-- A phrase that cannot be masked is not reduced. -/
theorem reduce_of_mask_eq_error {s : Phrase} {e : Error} (h : s.mask = .error e) : s.reduce = .error e := by
  unfold reduce
  rw [h]
  rfl

/-- A phrase that can be masked is reduced by a series of merges. -/
theorem exists_series_of_mask {s m : Phrase} (h : s.mask = .ok m) : ∃ k, Series m k s.reduce := by
  obtain ⟨ns, hns⟩ := exists_reads_of_mask h
  rw [reduce_eq_of_mask h]
  exact exists_series hns (by omega) (by omega)

/-- A reduction fails as the masking does, or by an operand. -/
theorem failure_of_reduce {s : Phrase} {e : Error} (h : s.reduce = .error e) : Failure s e := by
  cases hmask : s.mask with
  | error e' =>
    obtain rfl : e' = e := Except.error.inj ((reduce_of_mask_eq_error hmask).symm.trans h)
    exact failure_of_mask hmask
  | ok m =>
    obtain ⟨ns, hns⟩ := exists_reads_of_mask hmask
    obtain ⟨k, hk⟩ := exists_series_of_mask hmask
    exact hk.failure hns h

/-- **Reductions end.** A phrase cannot be masked, or a series of fewer merges than it has words comes to an end that
is the outcome of the reduction. All that can fail is a word without a meaning, a modifier without a neighbour or
without an operand, and an operand that rejects its neighbour. -/
theorem reduce_series (s : Phrase) :
    ((∃ e, s.mask = .error e ∧ s.reduce = .error e) ∨
      ∃ m k, s.mask = .ok m ∧ Series m k s.reduce ∧ k ≤ s.size - 1) ∧
      ∀ e, s.reduce = .error e → Failure s e := by
  refine ⟨?_, fun e he => failure_of_reduce he⟩
  cases hmask : s.mask with
  | error e => exact .inl ⟨e, rfl, reduce_of_mask_eq_error hmask⟩
  | ok m =>
    obtain ⟨ns, hns⟩ := exists_reads_of_mask hmask
    obtain ⟨k, hk⟩ := exists_series_of_mask hmask
    refine .inr ⟨m, k, rfl, hk, ?_⟩
    rw [← size_of_mask hmask]
    exact hk.le_size hns

end TextAnalysis.Phrase
