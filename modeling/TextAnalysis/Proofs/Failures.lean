/-
# Why texts are not read

A number parser reduces the phrase of what the words of a text mean, and what is left must be one number. It fails for a
few reasons, all of which are its own: the phrase has no words, a word has no meaning, the reduction fails, or something
else than a number is left. The text that a failure names is the one that was given.
-/
import TextAnalysis.Proofs.Reading
import TextAnalysis.Proofs.Reduction.Rounds

namespace TextAnalysis

/-- Whether a reason is worded by the caller who states it. -/
def Malformation.isStated : Malformation → Bool
  | stated _ => true
  | _ => false

/-- A check that does not hold fails with its reason. -/
theorem Stage.ensure_eq_error_iff {α : Type} [Token α] {holds : List α → Bool} {r : Malformation} {s : Sequence α}
    {e : Error} : Stage.ensure holds r s = .error e ↔ holds s.tokens = false ∧ e = .malformed s.text r := by
  unfold Stage.ensure
  cases holds s.tokens with
  | false => simp [eq_comm]
  | true => simp

/-- A check that holds leaves a sequence as it is. -/
theorem Stage.eq_of_ensure_eq_ok {α : Type} [Token α] {holds : List α → Bool} {r : Malformation} {s t : Sequence α}
    (h : Stage.ensure holds r s = .ok t) : s = t := by
  unfold Stage.ensure at h
  split at h
  · exact Except.ok.inj h
  · cases h

/-- No reduction fails for a reason that a caller states. -/
theorem Phrase.Failure.exists_unstated {p : Phrase} {e : Error} (h : Failure p e) :
    ∃ named r, e = .malformed named r ∧ r.isStated = false := by
  cases h with
  | untranslated | noNeighbour | noOperand | rejected | overflow => exact ⟨_, _, rfl, rfl⟩

namespace NumberParser

/-! ## Phrases -/

/-- A phrase is no number because it has no words, because a word of it has no meaning, because its reduction fails, or
because of what is left. -/
theorem evaluatePhrase_error_cases {p : Phrase} {e : Error} (h : evaluatePhrase p = .error e) :
    e = .malformed p.text .noWords ∨ e = .malformed p.text .untranslatedWord ∨ p.reduce = .error e ∨
      ∃ q, p.reduce = .ok q ∧ q.extract = .error e := by
  unfold evaluatePhrase at h
  rw [bind_assoc, bind_assoc] at h
  -- A check that is passed leaves the phrase as it is, so all steps are about the same one.
  rcases bind_eq_error.1 h with hwords | ⟨q, hwords, h⟩
  · exact .inl (Stage.ensure_eq_error_iff.1 hwords).2
  obtain rfl := Stage.eq_of_ensure_eq_ok hwords
  rcases bind_eq_error.1 h with hresolved | ⟨q, hresolved, h⟩
  · exact .inr (.inl (Stage.ensure_eq_error_iff.1 hresolved).2)
  obtain rfl := Stage.eq_of_ensure_eq_ok hresolved
  exact .inr (.inr (bind_eq_error.1 h))

/-- Where a phrase is not read, the reason is one of the library's own. -/
theorem exists_of_evaluatePhrase_eq_error {p : Phrase} {e : Error} (h : evaluatePhrase p = .error e) :
    ∃ named r, e = .malformed named r ∧ r.isStated = false := by
  rcases evaluatePhrase_error_cases h with rfl | rfl | hreduce | ⟨q, -, hextract⟩
  · exact ⟨_, _, rfl, rfl⟩
  · exact ⟨_, _, rfl, rfl⟩
  · exact (Phrase.failure_of_reduce hreduce).exists_unstated
  · rcases Phrase.extract_error_cases hextract with ⟨-, rfl⟩ | ⟨-, r, hr, rfl⟩ | ⟨-, rfl⟩
    · exact ⟨_, _, rfl, rfl⟩
    · refine ⟨_, r, rfl, ?_⟩
      revert r
      simp [Malformation.isStated]
    · exact ⟨_, _, rfl, rfl⟩

/-! ## Texts -/

variable {parser : NumberParser} {text : Text} {e : Error}

/-- Parsing a text fails as its evaluation does, but names the text that was given. -/
theorem parse_eq_error_iff : parser.parse text = .error e ↔
    ∃ found, parser.parser.evaluate (parser.parser.prepare text) = .error found ∧ found.aboutText text = e := by
  unfold parse TextParser.parse
  rw [map_eq_error, mapError_eq_error]

/-- What a parser evaluates is the phrase of the words of a text. -/
theorem evaluate_eq_of_reader {caseSensitive : Bool} {d : Delimiters} {look : Text → Option (Meaning Numeral)}
    {before : Option (Text → Text)} {after : Option (Int → Int)}
    (h : parser.parser = reader caseSensitive d look before after) {tokens : List Fragment}
    (htokens : d.tokenize text = .ok tokens) :
    parser.parser.evaluate text = evaluatePhrase (phraseBy caseSensitive look (Sequence.sorted tokens)) := by
  rw [h, ← run_stages_eq]
  show d.tokenize text >>= _ = _
  rw [htokens]
  rfl

/-- A text that is not read is named by the failure, and the reason is one of the parser's own. -/
theorem exists_of_parse_eq_error [PatternEngine] {v : Vocabulary} {s : Settings} {before : Option (Text → Text)}
    {after : Option (Int → Int)} (hbuild : build v s before after = .ok parser) (h : parser.parse text = .error e) :
    ∃ r, e = .malformed text r ∧ r.isStated = false := by
  obtain ⟨d, look, -, hparser⟩ := exists_reader_of_build hbuild
  obtain ⟨found, hfound, rfl⟩ := parse_eq_error_iff.1 h
  obtain ⟨tokens, htokens, -⟩ := d.exists_tokenize (parser.parser.prepare text)
  rw [evaluate_eq_of_reader hparser htokens] at hfound
  obtain ⟨named, r, rfl, hr⟩ := exists_of_evaluatePhrase_eq_error hfound
  exact ⟨r, rfl, hr⟩

end NumberParser

end TextAnalysis
