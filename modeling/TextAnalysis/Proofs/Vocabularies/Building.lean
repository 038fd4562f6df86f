/-
# Parsers of accepted vocabularies

A vocabulary that passes its check makes a parser with all settings that pass theirs, can be registered, and is found
valid by the command that validates vocabulary files. There is one exception: the empty text is the written form of a
pattern, so the check lets it through as a delimiter, but nothing can be cut at it.
-/
import TextAnalysis.CommandLine.Run
import TextAnalysis.Proofs.Reading
import TextAnalysis.Proofs.Registries.Runs
import TextAnalysis.Proofs.Vocabularies.Checks

namespace TextAnalysis

namespace NumberParser

variable {v : Vocabulary} {s : Settings} {before : Option (Text → Text)} {after : Option (Int → Int)}

/-! ## Delimiters -/

/-- Why no parser cuts words at the empty text. -/
def emptyDelimiter : Error :=
  .configuration (.argument .emptyDelimiterPattern)

theorem delimiters_of_nil [PatternEngine] (h : v.delimiter = []) : delimiters v = .error emptyDelimiter := by
  unfold delimiters Delimiters.make
  rw [h]
  rfl

/-- Words can be cut at a delimiter that is a pattern and has a written form. -/
theorem exists_delimiters [PatternEngine] (h : v.delimiter ≠ [])
    (hcompile : ∃ p, PatternEngine.compile v.delimiter = .ok p) : ∃ d, delimiters v = .ok d := by
  obtain ⟨p, hp⟩ := hcompile
  refine ⟨⟨v.delimiter, p⟩, ?_⟩
  unfold delimiters Delimiters.make
  rw [if_neg (mt List.isEmpty_iff.1 h), hp]
  rfl

/-! ## Building -/

theorem build_of_nil [PatternEngine] (hs : s.check = .ok ()) (h : v.delimiter = []) :
    build v s before after = .error emptyDelimiter := by
  unfold build
  rw [hs, ok_bind, delimiters_of_nil h]
  rfl

/-- A vocabulary that is in order makes a parser with all settings that pass their check, unless its delimiter is
empty. -/
theorem exists_build [PatternEngine] (hv : v.InOrder) (hs : s.check = .ok ()) (h : v.delimiter ≠ []) :
    ∃ parser, build v s before after = .ok parser :=
  exists_build_iff.2 ⟨hs, exists_delimiters h hv.delimiter⟩

theorem exists_ofVocabulary_iff [PatternEngine] (hv : v.InOrder) :
    (∃ parser, ofVocabulary v = .ok parser) ↔ v.delimiter ≠ [] := by
  constructor
  · rintro ⟨parser, hparser⟩ hnil
    rw [ofVocabulary, build_of_nil (by decide) hnil] at hparser
    cases hparser
  · exact exists_build hv (by decide)

end NumberParser

/-! ## Files -/

/-- A file that holds a vocabulary holds one that is in order. -/
theorem Vocabulary.inOrder_of_ofFile [PatternEngine] [Toml.Reader] {path : Text} {content : Except ReadFailure Text}
    {v : Vocabulary} (h : ofFile path content = .ok v) : v.InOrder := by
  unfold ofFile at h
  split at h
  · unfold read at h
    split at h
    · obtain ⟨rfl, hv⟩ := checked_eq_ok_iff.1 h
      exact hv
    · cases h
  · cases h

namespace Registry

/-- A file is registered exactly if it holds a vocabulary whose delimiter is not empty. -/
theorem exists_register_file_iff [PatternEngine] [Toml.Reader] {path : Text} {content : Except ReadFailure Text}
    (r : Registry) : (∃ result, (Registration.file path content).register r = .ok result) ↔
      ∃ v, Vocabulary.ofFile path content = .ok v ∧ v.delimiter ≠ [] := by
  simp only [Registration.register_eq, map_eq_ok, Registration.outcome, bind_eq_ok]
  constructor
  · rintro ⟨_, e, ⟨v, hv, parser, hparser, -⟩, -⟩
    exact ⟨v, hv, (NumberParser.exists_ofVocabulary_iff (Vocabulary.inOrder_of_ofFile hv)).1 ⟨parser, hparser⟩⟩
  · rintro ⟨v, hv, hdelimiter⟩
    obtain ⟨parser, hparser⟩ :=
      (NumberParser.exists_ofVocabulary_iff (Vocabulary.inOrder_of_ofFile hv)).2 hdelimiter
    exact ⟨_, _, ⟨v, hv, parser, hparser, rfl⟩, rfl⟩

end Registry

namespace CommandLine

/-- What the command "validate" finds out about the content of a file. -/
def validation [PatternEngine] [Toml.Reader] (path : Text) (content : Except ReadFailure Text) :
    Except CommandError Bool :=
  (((Vocabulary.ofFile path content) >>= NumberParser.ofVocabulary).map fun _ => true).mapError .invalidVocabulary

theorem result_runValidate [PatternEngine] [Toml.Reader] {m : Type → Type} [Monad m] [LawfulMonad m] (fs : FileAccess m)
    (path : Text) : Outcome.result <$> runValidate fs path = validation path <$> fs.content path := by
  unfold runValidate
  rw [map_bind, ← bind_pure_comp]
  refine bind_congr fun content => ?_
  unfold validation
  cases Vocabulary.ofFile path content with
  | error e => exact map_pure ..
  | ok v =>
    simp only [ok_bind]
    cases NumberParser.ofVocabulary v with
    | error e => exact map_pure ..
    | ok parser => exact map_pure ..

/-- A file is found valid exactly if it holds a vocabulary whose delimiter is not empty. -/
theorem validation_eq_ok_iff [PatternEngine] [Toml.Reader] {path : Text} {content : Except ReadFailure Text} :
    validation path content = .ok true ↔ ∃ v, Vocabulary.ofFile path content = .ok v ∧ v.delimiter ≠ [] := by
  unfold validation
  simp only [mapError_eq_ok, map_eq_ok, bind_eq_ok, and_true]
  rw [exists_comm]
  refine exists_congr fun v => ?_
  rw [exists_and_left]
  exact and_congr_right fun hv => NumberParser.exists_ofVocabulary_iff (Vocabulary.inOrder_of_ofFile hv)

end CommandLine

/-! ## Accepted vocabularies -/

namespace NumberParser

/-- **Accepted vocabularies.** A vocabulary that passes its check makes a parser with all settings that pass theirs, and
it is registered, unless its delimiter is empty; with an empty delimiter both fail for this reason. Files are registered
exactly if they hold a vocabulary that passes its check and has a delimiter that is not empty. The command that
validates files accepts the same ones. -/
theorem accepted_builds [PatternEngine] [Toml.Reader] {v : Vocabulary} (hv : v.check = .ok ()) {asked s : Settings}
    (hs : asked.checked = .ok s) (before : Option (Text → Text)) (after : Option (Int → Int)) (r : Registry) :
    (v.delimiter ≠ [] → (∃ parser, build v s before after = .ok parser) ∧
      ∃ parser, r.register v = .ok (parser, r.insert ⟨v, parser⟩)) ∧
    (v.delimiter = [] → build v s before after = .error emptyDelimiter ∧ r.register v = .error emptyDelimiter) ∧
    (∀ path content, ((∃ result, (Registry.Registration.file path content).register r = .ok result) ↔
        ∃ w, Vocabulary.ofFile path content = .ok w ∧ w.delimiter ≠ []) ∧
      (CommandLine.validation path content = .ok true ↔
        ∃ w, Vocabulary.ofFile path content = .ok w ∧ w.delimiter ≠ [])) ∧
    ∀ (m : Type → Type) [Monad m] [LawfulMonad m] (fs : FileAccess m) path,
      CommandLine.Outcome.result <$> CommandLine.runValidate fs path =
        CommandLine.validation path <$> fs.content path := by
  have hv := Vocabulary.check_eq_ok_iff.1 hv
  obtain ⟨⟨⟩, hcheck, rfl⟩ := map_eq_ok.1 hs
  refine ⟨fun h => ⟨exists_build hv hcheck h, ?_⟩, fun h => ⟨build_of_nil hcheck h, ?_⟩, fun path content =>
    ⟨Registry.exists_register_file_iff r, CommandLine.validation_eq_ok_iff⟩, fun m _ _ fs path =>
    CommandLine.result_runValidate fs path⟩
  · -- Registering builds with the standard settings, which pass their check.
    obtain ⟨parser, hparser⟩ := (exists_ofVocabulary_iff hv).2 h
    refine ⟨parser, ?_⟩
    unfold Registry.register
    rw [hparser]
    rfl
  · unfold Registry.register ofVocabulary
    rw [build_of_nil (by decide) h]
    rfl

/-- A vocabulary of one word with a given delimiter. -/
def oneWordCutAt (delimiter : Text) : Vocabulary :=
  { Registry.oneWord "en" "English" [] with delimiter }

theorem check_oneWordCutAt [PatternEngine] {delimiter : Text} {p : CompiledPattern}
    (h : PatternEngine.compile delimiter = .ok p) : (oneWordCutAt delimiter).check = .ok () := by
  have hcode : Text.isAllBlank "en".toList = false := by decide
  refine Vocabulary.check_eq_ok_iff.2 ⟨hcode, List.cons_ne_nil _ _, ⟨p, h⟩, ?_, List.nodup_singleton _⟩
  exact List.forall_mem_singleton.2 (VocabularyEntry.check_eq_ok_iff.1 rfl)

/-- A vocabulary with the usual delimiter makes a parser that minds case and has a tolerance, and it is registered. -/
theorem accepted_builds_usualDelimiter :
    (oneWordCutAt Vocabulary.usualDelimiter).check = .ok () ∧
    Settings.checked ⟨"en".toList, true, some (.ofRatio 1 3)⟩ = .ok ⟨"en".toList, true, some (.ofRatio 1 3)⟩ ∧
    Vocabulary.usualDelimiter ≠ [] ∧
    (∃ parser, build (oneWordCutAt Vocabulary.usualDelimiter) ⟨"en".toList, true, some (.ofRatio 1 3)⟩ none none =
      .ok parser) ∧
    ∃ parser, Registry.register {} (oneWordCutAt Vocabulary.usualDelimiter) =
      .ok (parser, Registry.insert {} ⟨oneWordCutAt Vocabulary.usualDelimiter, parser⟩) := by
  have hv := check_oneWordCutAt English.compile_usualDelimiter
  have hs : Settings.checked ⟨"en".toList, true, some (.ofRatio 1 3)⟩ =
      .ok ⟨"en".toList, true, some (.ofRatio 1 3)⟩ := by decide +kernel
  have hdelimiter : Vocabulary.usualDelimiter ≠ [] := by decide
  obtain ⟨hbuild, hregister⟩ := (accepted_builds hv hs none none {}).1 hdelimiter
  exact ⟨hv, hs, hdelimiter, hbuild, hregister⟩

/-- The empty text is the written form of a pattern. -/
theorem compile_nil : PatternEngine.compile [] = .ok Pattern.empty.compiled := by
  have hwritten : Pattern.syntaxOf [] = .ok (.empty, 0) := rfl
  have hread : Pattern.read [] = .ok .empty := by
    unfold Pattern.read
    rw [hwritten, ok_bind]
    dsimp only
    rw [if_neg (by decide), if_pos (by decide +kernel)]
    rfl
  simp only [PatternEngine.compile, hread]

/-- A vocabulary with an empty delimiter passes its check, but it makes no parser with default settings. -/
theorem accepted_emptyDelimiter :
    (oneWordCutAt []).check = .ok () ∧ Settings.checked {} = .ok {} ∧
      ¬ ∃ parser, build (oneWordCutAt []) {} none none = .ok parser := by
  refine ⟨check_oneWordCutAt compile_nil, by decide, ?_⟩
  rintro ⟨parser, hparser⟩
  rw [build_of_nil (by decide) rfl] at hparser
  cases hparser

end NumberParser

end TextAnalysis
