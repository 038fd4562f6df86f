/-
# Operands of modifiers

A modifier in an accepted vocabulary has exactly one operand, and its association allows that operand. So masking leaves
a modifier as it is, whichever dictionary and tolerance it was found with, and merging leaves it as it is as well, since
what is merged is a number. That is why no parser of the vocabulary ever meets a modifier without an operand.
-/
import TextAnalysis.Proofs.Failures
import TextAnalysis.Proofs.Folding

namespace TextAnalysis

/-! ## Entries -/

/-- The association of a modifier that is in order allows its operand. -/
theorem VocabularyEntry.InOrder.allowed {e : VocabularyEntry} (he : e.InOrder) (hmod : e.kind = .modifier) :
    Phrase.allowedLeft ⟨e.numeral, e.association⟩ = e.left ∧
      Phrase.allowedRight ⟨e.numeral, e.association⟩ = e.right := by
  have hone := he.modifier hmod
  have hsides := he.sides
  cases hassociation : e.association with
  | none => exact ⟨rfl, rfl⟩
  | some a =>
    obtain ⟨hleft, hright⟩ := hsides a hassociation
    -- The other operand is the one that a modifier does not have.
    cases a with
    | left =>
      have hnone : e.right = none := by
        rw [← Option.not_isSome_iff_eq_none]
        exact fun h => hone ((hleft rfl).trans h.symm)
      exact ⟨rfl, hnone.symm⟩
    | right =>
      have hnone : e.left = none := by
        rw [← Option.not_isSome_iff_eq_none]
        exact fun h => hone (h.trans (hright rfl).symm)
      exact ⟨hnone.symm, rfl⟩
    | bidirectional => exact absurd ((hleft rfl).trans (hright rfl).symm) hone

namespace Vocabulary

/-- A meaning is that of a modifier of a vocabulary. The entry has one operand, and the association allows it. -/
def DeclaresModifier (v : Vocabulary) (m : Meaning Numeral) : Prop :=
  ∃ e ∈ v.entries, e.kind = .modifier ∧ m = ⟨e.numeral, e.association⟩ ∧ e.left.isSome ≠ e.right.isSome ∧
    Phrase.allowedLeft m = e.left ∧ Phrase.allowedRight m = e.right

/-- The association of a declared modifier allows all of its operands, and there is one. -/
theorem DeclaresModifier.allowed {v : Vocabulary} {m : Meaning Numeral} (h : v.DeclaresModifier m) :
    Phrase.allowedLeft m = m.value.left ∧ Phrase.allowedRight m = m.value.right ∧
      m.value.left.isSome ≠ m.value.right.isSome := by
  obtain ⟨e, -, -, rfl, hone, hleft, hright⟩ := h
  exact ⟨hleft, hright, hone⟩

end Vocabulary

/-! ## Looking up -/

namespace Dictionary

/-- What a word means within a tolerance is the meaning of an entry. -/
theorem exists_of_meaningWithin {α : Type} {d : Dictionary α} {tolerance : Option Binary64} {word : Text}
    {m : Meaning α} (h : d.meaningWithin tolerance word = some m) : ∃ e ∈ d.entries, m = Stage.meaning e := by
  unfold meaningWithin at h
  cases tolerance with
  | none =>
    obtain ⟨e, he, rfl⟩ := Option.map_eq_some_iff.1 h
    exact ⟨e, List.mem_of_find?_eq_some he, rfl⟩
  | some t =>
    obtain ⟨found, hfound, rfl⟩ := Option.map_eq_some_iff.1 h
    obtain ⟨e, he, rfl⟩ := List.mem_map.1 (Matches.mem_of_best (Option.filter_eq_some_iff.1 hfound).1)
    exact ⟨e, he, rfl⟩

end Dictionary

namespace Vocabulary

/-- A modifier that is found in a dictionary of an accepted vocabulary is one of the vocabulary. -/
theorem InOrder.declaresModifier [PatternEngine] {v : Vocabulary} (hv : v.InOrder) {caseSensitive : Bool}
    {tolerance : Option Binary64} {word : Text} {m : Meaning Numeral}
    (h : (if caseSensitive then v.dictionary else v.foldedDictionary).meaningWithin tolerance word = some m)
    (hmod : m.value.isModifier = true) : v.DeclaresModifier m := by
  obtain ⟨_, hentry, rfl⟩ := Dictionary.exists_of_meaningWithin h
  have hexact : (v.entries.map fun e => id e.word).Nodup := by
    refine List.Nodup.of_map Text.lowercase ?_
    rw [List.map_map]
    exact hv.distinct
  obtain ⟨key, e, he, rfl⟩ : ∃ key, ∃ e ∈ v.entries, entryBy key e = _ := by
    cases caseSensitive with
    | true => exact ⟨id, List.mem_map.1 ((entries_dictionaryBy hexact) ▸ hentry)⟩
    | false => exact ⟨Text.lowercase, List.mem_map.1 ((entries_dictionaryBy hv.distinct) ▸ hentry)⟩
  have hkind : e.kind = .modifier := beq_iff_eq.1 hmod
  obtain ⟨hleft, hright⟩ := (hv.each e he).allowed hkind
  exact ⟨e, he, hkind, rfl, (hv.each e he).modifier hkind, hleft, hright⟩

end Vocabulary

/-! ## Modifiers in phrases -/

/-- A computation that does not find a modifier without an operand. -/
def NeverBare {α : Type} (x : Except Error α) : Prop :=
  ∀ named, x ≠ .error (.malformed named .modifierWithoutOperand)

theorem neverBare_malformed {α : Type} {text : Text} {r : Malformation} (h : r ≠ .modifierWithoutOperand) :
    NeverBare (.error (.malformed text r) : Except Error α) := by
  rintro named hbare
  cases hbare
  exact h rfl

namespace Phrase

/-- All modifiers among the words of a phrase are declared by a vocabulary. -/
def Declared (v : Vocabulary) (p : Phrase) : Prop :=
  ∀ w ∈ p.tokens, ∀ m, w.current.meaning = some m → m.value.isModifier = true → v.DeclaresModifier m

/-- All modifiers in a phrase are words of another one. -/
def KeepsModifiers (p q : Phrase) : Prop :=
  ∀ w ∈ q.tokens, ∀ m, w.current.meaning = some m → m.value.isModifier = true → w ∈ p.tokens

theorem KeepsModifiers.refl (p : Phrase) : KeepsModifiers p p :=
  fun _ hw _ _ _ => hw

theorem KeepsModifiers.trans {p q t : Phrase} (h : KeepsModifiers p q) (h' : KeepsModifiers q t) : KeepsModifiers p t :=
  fun w hw m hm hmod => h w (h' w hw m hm hmod) m hm hmod

/-! ### Masking -/

variable {v : Vocabulary} {p : Phrase}

/-- Masking a declared modifier leaves the word as it is. -/
theorem maskWord_of_declared {size index : Nat} {w w' : Word} (h : maskWord size index w = .ok w') {m : Meaning Numeral}
    (hm : w.current.meaning = some m) (hmod : m.value.isModifier = true) (hdeclared : v.DeclaresModifier m) :
    w' = w := by
  obtain ⟨m', hm', hmaskable, rfl⟩ := maskWord_eq_ok_iff.1 h
  obtain rfl := Option.some.inj (hm'.symm.trans hm)
  obtain ⟨hmaskedLeft, hmaskedRight⟩ := masked_of_isModifier hmaskable hmod
  obtain ⟨hleft, hright, -⟩ := hdeclared.allowed
  rw [hmaskedLeft, hmaskedRight, hleft, hright]
  exact if_pos ⟨rfl, rfl⟩

/-- Masking a declared modifier finds its operand. -/
theorem neverBare_maskWord {size index : Nat} {w : Word}
    (hdeclared : ∀ m, w.current.meaning = some m → m.value.isModifier = true → v.DeclaresModifier m) :
    NeverBare (maskWord size index w) := by
  cases hm : w.current.meaning with
  | none =>
    unfold maskWord
    rw [hm]
    exact neverBare_malformed (by decide)
  | some m =>
    rw [maskWord_of_meaning hm]
    split
    · rename_i hmod
      obtain ⟨hleft, hright, hone⟩ := (hdeclared m hm hmod).allowed
      -- A declared modifier has an operand on exactly one side, and its kind allows this one.
      have hoperand : ¬ ((allowedLeft m).isNone && (allowedRight m).isNone) = true := by
        rw [hleft, hright]
        cases hl : m.value.left <;> cases hr : m.value.right <;> simp_all
      rw [if_neg hoperand]
      split
      · exact neverBare_malformed (by decide)
      · exact fun _ h => nomatch h
    · exact fun _ h => nomatch h

theorem neverBare_mask (hdeclared : p.Declared v) : NeverBare p.mask := by
  intro named h
  obtain ⟨w, hw, i, he⟩ := exists_of_mask_eq_error h
  exact neverBare_maskWord (hdeclared w hw) named he

/-- Masking leaves declared modifiers as they are. -/
theorem keepsModifiers_of_mask (hdeclared : p.Declared v) {q : Phrase} (h : p.mask = .ok q) : KeepsModifiers p q := by
  intro w' hw' m hm hmod
  obtain ⟨⟨w, i⟩, hwi, hmask⟩ := exists_of_mem_of_forall₂ (mask_eq_ok_iff.1 h).2 hw'
  have hw : w ∈ p.tokens := List.fst_mem_of_mem_zipIdx hwi
  obtain ⟨m₀, hm₀, hvalue, -⟩ := maskWord_value hmask
  have hmod₀ : m₀.value.isModifier = true := by
    rw [Valued.value?, hm] at hvalue
    rw [← masked_isModifier p.size i m₀, ← Option.some.inj hvalue]
    exact hmod
  rwa [maskWord_of_declared hmask hm₀ hmod₀ (hdeclared w hw m₀ hm₀ hmod₀)]

/-! ### Merging -/

/-- A merge makes no modifiers. -/
theorem keepsModifiers_of_merges {q : Phrase} {ns : List Numeral} (hns : p.Reads ns) (h : Merges p q) :
    KeepsModifiers p q := by
  obtain ⟨l, u, w, r, _, a, b, _, side, _, x, hp, -, -, -, -, -, -, -, -, -, rfl⟩ := exists_of_merges h hns
  intro w' hw' m hm hmod
  rw [hp]
  rcases List.mem_append.1 hw' with hl | hr
  · exact List.mem_append_left _ hl
  · rcases List.mem_cons.1 hr with rfl | hr
    · cases hm
      cases hmod
    · exact List.mem_append_right _ (List.mem_cons_of_mem _ (List.mem_cons_of_mem _ hr))

theorem keepsModifiers_of_reflTransGen {q : Phrase} {ns : List Numeral} (hns : p.Reads ns)
    (h : Relation.ReflTransGen Merges p q) : KeepsModifiers p q := by
  induction h using Relation.ReflTransGen.head_induction_on generalizing ns with
  | refl => exact .refl _
  | head hmerges _ ih =>
    obtain ⟨ns', -, hns'⟩ := exists_joins_of_merges hmerges hns
    exact (keepsModifiers_of_merges hns hmerges).trans (ih hns')

/-- Merging never finds a modifier without an operand. -/
theorem Series.neverBare {k : Nat} {r : Except Error Phrase} (h : Series p k r) {ns : List Numeral} (hns : p.Reads ns) :
    NeverBare r := by
  intro named hbare
  -- Only an operand can be to blame, so the failure is one of the phrase without words as well.
  have hfailure : Failure { p with tokens := [] } _ := h.failure hns hbare
  cases hfailure with
  | noOperand hw => exact absurd hw List.not_mem_nil

/-! ### Reducing -/

/-- A phrase whose modifiers are declared is reduced without finding one that has no operand. -/
theorem neverBare_reduce (hdeclared : p.Declared v) : NeverBare p.reduce := by
  cases hmask : p.mask with
  | error e =>
    rw [reduce_of_mask_eq_error hmask, ← hmask]
    exact neverBare_mask hdeclared
  | ok m =>
    obtain ⟨ns, hns⟩ := exists_reads_of_mask hmask
    obtain ⟨k, hseries⟩ := exists_series_of_mask hmask
    exact hseries.neverBare hns

end Phrase

/-! ## Parsers -/

namespace NumberParser

theorem neverBare_evaluatePhrase {v : Vocabulary} {p : Phrase} (h : p.Declared v) : NeverBare (evaluatePhrase p) := by
  intro named hbare
  rcases evaluatePhrase_error_cases hbare with hwords | hresolved | hreduce | ⟨q, -, hextract⟩
  · cases hwords
  · cases hresolved
  · exact Phrase.neverBare_reduce h named hreduce
  · rcases Phrase.extract_error_cases hextract with ⟨-, heq⟩ | ⟨-, r, hr, heq⟩ | ⟨-, heq⟩
    · cases heq
    · cases heq
      simp at hr
    · cases heq

/-- A text parser finds no modifier without an operand if none is found as it evaluates the text. -/
theorem neverBare_parse {parser : NumberParser} {text : Text}
    (h : NeverBare (parser.parser.evaluate (parser.parser.prepare text))) : NeverBare (parser.parse text) := by
  intro named hparse
  obtain ⟨found, hfound, habout⟩ := parse_eq_error_iff.1 hparse
  unfold Error.aboutText at habout
  split at habout
  · cases habout
    exact h _ hfound
  · cases habout
    exact h named hfound

/-- **Operands of modifiers.** No parser of an accepted vocabulary finds a modifier without an operand in any text. What
it reduces is the phrase of what the words of the text mean in its dictionary and within its tolerance. A modifier in
that phrase has the meaning of an entry with one operand, which its association allows. Masking leaves such a word as it
is, and every modifier in a phrase that merges lead to is one of these words. -/
theorem parse_modifiers [PatternEngine] {v : Vocabulary} (hv : v.check = .ok ()) {s : Settings}
    {before : Option (Text → Text)} {after : Option (Int → Int)} {parser : NumberParser}
    (h : build v s before after = .ok parser) (text : Text) :
    (∀ named, parser.parse text ≠ .error (.malformed named .modifierWithoutOperand)) ∧
    ∃ d tokens p, delimiters v = .ok d ∧ d.tokenize ((before.getD id) text) = .ok tokens ∧
      p = phraseBy s.caseSensitive ((if s.caseSensitive then v.dictionary else v.foldedDictionary).meaningWithin
        s.tolerance) (Sequence.sorted tokens) ∧
      parser.parser.evaluate ((before.getD id) text) = evaluatePhrase p ∧
      (∀ w ∈ p.tokens, ∀ m, w.current.meaning = some m → m.value.isModifier = true → v.DeclaresModifier m) ∧
      ∀ q t, p.mask = .ok q → Relation.ReflTransGen Phrase.Merges q t → ∀ w ∈ t.tokens, ∀ m,
        w.current.meaning = some m → m.value.isModifier = true → w ∈ q.tokens ∧ w ∈ p.tokens := by
  have hv := Vocabulary.check_eq_ok_iff.1 hv
  obtain ⟨d, hd, hparser⟩ := reader_of_build h
  obtain ⟨tokens, htokens, -⟩ := d.exists_tokenize ((before.getD id) text)
  -- The vocabulary declares every modifier that is looked up.
  have hdeclared : ∀ p, p = phraseBy s.caseSensitive ((if s.caseSensitive then v.dictionary else
      v.foldedDictionary).meaningWithin s.tolerance) (Sequence.sorted tokens) → p.Declared v := by
    rintro _ rfl w hw m hm hmod
    obtain ⟨t, -, rfl⟩ := List.mem_map.1 hw
    rw [translatedBy_rawWord] at hm
    exact hv.declaresModifier hm hmod
  obtain ⟨p, hp⟩ : ∃ p, p = phraseBy s.caseSensitive ((if s.caseSensitive then v.dictionary else
    v.foldedDictionary).meaningWithin s.tolerance) (Sequence.sorted tokens) := ⟨_, rfl⟩
  have hevaluate : parser.parser.evaluate ((before.getD id) text) = evaluatePhrase p := by
    rw [hp]
    exact evaluate_eq_of_reader hparser htokens
  refine ⟨neverBare_parse ?_, d, tokens, p, hd, htokens, hp, hevaluate, hdeclared p hp, fun q t hq ht w hw m hm hmod => ?_⟩
  · have hprepare : parser.parser.prepare text = (before.getD id) text := by
      rw [hparser]
      rfl
    rw [hprepare, hevaluate]
    exact neverBare_evaluatePhrase (hdeclared p hp)
  · obtain ⟨ns, hns⟩ := Phrase.exists_reads_of_mask hq
    have hwq := Phrase.keepsModifiers_of_reflTransGen hns ht w hw m hm hmod
    exact ⟨hwq, Phrase.keepsModifiers_of_mask (hdeclared p hp) hq w hwq m hm hmod⟩

theorem check_english : English.vocabulary.check = .ok () := by
  unfold Vocabulary.check Vocabulary.checkContent
  have hdelimiter : English.vocabulary.delimiter = Vocabulary.usualDelimiter := rfl
  rw [hdelimiter, English.compile_usualDelimiter]
  decide +kernel

/-- The ending of the teens has an operand also where it is misspelled. -/
theorem parse_modifiers_teen :
    English.vocabulary.check = .ok () ∧
    ∃ parser, build English.vocabulary ⟨"en".toList, false, some (.ofRatio 1 3)⟩ none none = .ok parser ∧
      ∀ named, parser.parse "teem seven".toList ≠ .error (.malformed named .modifierWithoutOperand) := by
  obtain ⟨parser, hparser⟩ := exists_build_iff.2
    ⟨show Settings.check ⟨"en".toList, false, some (.ofRatio 1 3)⟩ = .ok () by decide +kernel, _, English.delimiters_eq⟩
  exact ⟨check_english, parser, hparser, (parse_modifiers check_english hparser _).1⟩

end NumberParser

end TextAnalysis
