/-
# Reading texts

What a number parser makes of a text depends on the words of the text alone: it reads the same number from texts with
the same words, or finds both malformed for the same reason. It fails in no other way, and it names the text that it
was given. Both hold for every vocabulary and with a tolerance as well, since a lookup by similarity never fails.
-/
import TextAnalysis.Proofs.English.Words
import TextAnalysis.Proofs.Matching
import TextAnalysis.Proofs.Reduction.Meanings

namespace TextAnalysis.NumberParser

/-! ## Looking up -/

/-- With and without a tolerance, words are translated by a lookup that never fails. -/
theorem resolvingStage_eq [PatternEngine] {d : Dictionary Numeral} {tolerance : Option Binary64}
    {stage : Stage Phrase Phrase} (h : resolvingStage d tolerance = .ok stage) :
    stage = Stage.translateBy (fun text => .ok (d.meaningWithin tolerance text)) Phrase.resolving := by
  cases tolerance with
  | none =>
    cases h
    rfl
  | some t =>
    obtain ⟨m, hm, rfl⟩ := map_eq_ok.1 h
    obtain ⟨-, -, hm⟩ := bind_eq_ok.1 hm
    cases hm
    have hlook : ∀ text, (d.matching text (.metric (.levenshtein .dissimilarity) t)).map
        (fun found => found.best.map (Stage.meaning ·.entry)) = .ok (d.meaningWithin (some t) text) := fun text => by
      rw [← map_map_eq _ Matches.best (·.map (Stage.meaning ·.entry)), d.best_matching text t]
      rfl
    unfold Stage.translateWith
    simp only [hlook]

/-- In settings that pass their check a tolerance lies between zero and one. -/
theorem isProportion_of_check {s : Settings} (h : s.check = .ok ()) {t : Binary64} (ht : s.tolerance = some t) :
    Settings.isProportion t = true := by
  unfold Settings.check at h
  rw [ht] at h
  split at h
  · cases h
  · by_contra hnot
    dsimp only at h
    rw [if_neg hnot] at h
    cases h

/-- Settings that pass their check have a stage that translates words. -/
theorem exists_resolvingStage [PatternEngine] {s : Settings} (h : s.check = .ok ()) (d : Dictionary Numeral) :
    ∃ stage, resolvingStage d s.tolerance = .ok stage := by
  cases htolerance : s.tolerance with
  | none => exact ⟨_, rfl⟩
  | some t =>
    have hthreshold : (Metric.levenshtein .dissimilarity).checkThreshold t = .ok () :=
      if_pos (isProportion_of_check h htolerance)
    refine ⟨_, map_eq_ok.2 ⟨.metric (.levenshtein .dissimilarity) t, ?_, rfl⟩⟩
    unfold Matcher.ofMetric
    rw [hthreshold]
    rfl

/-! ## Stages -/

/-- A check of which both phrases or none hold makes no difference to whether what follows agrees. -/
theorem agree_ensure_bind {p q : Phrase} {holds : List Word → Bool} (h : holds p.tokens = holds q.tokens)
    (reason : Malformation) {α β : Type} {R : α → β → Prop} {f : Phrase → Except Error α}
    {g : Phrase → Except Error β} (hfg : Agree R (f p) (g q)) :
    Agree R (Stage.ensure holds reason p >>= f) (Stage.ensure holds reason q >>= g) := by
  unfold Stage.ensure
  rw [h]
  split
  · exact hfg
  · exact .malformed _ _ _

/-- What becomes of a phrase depends on what its words mean. -/
theorem agree_evaluatePhrase {p q : Phrase}
    (h : p.tokens.map (·.current.meaning) = q.tokens.map (·.current.meaning)) :
    Agree Eq (evaluatePhrase p) (evaluatePhrase q) := by
  have hany : p.tokens.any (fun _ => true) = q.tokens.any fun _ => true := by
    have hcheck := congrArg (List.any · fun _ => true) h
    rwa [List.any_map, List.any_map] at hcheck
  have hall : p.tokens.all (·.current.isResolved) = q.tokens.all (·.current.isResolved) := by
    have hcheck := congrArg (List.all · Option.isSome) h
    rwa [List.all_map, List.all_map] at hcheck
  unfold evaluatePhrase
  rw [bind_assoc, bind_assoc, bind_assoc, bind_assoc]
  refine agree_ensure_bind hany .noWords (agree_ensure_bind hall .untranslatedWord ?_)
  exact (Phrase.agree_reduce h).bind fun _ _ => Phrase.agree_extract

/-- What the stages make of fragments depends on what the texts mean under which these are looked up. -/
theorem agree_run_stages {caseSensitive caseSensitive' : Bool} {look look' : Text → Option (Meaning Numeral)}
    {s s' : Sequence Fragment} (h : s.tokens.map (fun t => look (keyOf caseSensitive t.text)) =
      s'.tokens.map fun t => look' (keyOf caseSensitive' t.text)) :
    Agree Eq ((stages caseSensitive (Stage.translateBy (fun text => .ok (look text)) Phrase.resolving)).run s)
      ((stages caseSensitive' (Stage.translateBy (fun text => .ok (look' text)) Phrase.resolving)).run s') := by
  rw [run_stages_eq, run_stages_eq]
  apply agree_evaluatePhrase
  rw [map_meaning_phraseBy, map_meaning_phraseBy]
  exact h

/-- A phrase with a word without a meaning is not read. -/
theorem evaluatePhrase_of_none {p : Phrase} (h : none ∈ p.tokens.map (·.current.meaning)) :
    evaluatePhrase p = .error (.malformed p.text .untranslatedWord) := by
  obtain ⟨w, hw, hmeaning⟩ := List.mem_map.1 h
  have hany : p.tokens.any (fun _ => true) = true := List.any_eq_true.2 ⟨w, hw, rfl⟩
  have hall : ¬ p.tokens.all (·.current.isResolved) = true := by
    intro hall
    have hresolved := List.all_eq_true.1 hall w hw
    unfold Valued.isResolved at hresolved
    rw [hmeaning] at hresolved
    cases hresolved
  unfold evaluatePhrase
  rw [bind_assoc, bind_assoc]
  unfold Stage.ensureAny Stage.ensureAll Stage.ensure
  rw [if_pos hany, ok_bind, if_neg hall]
  rfl

/-- Fragments one of which is looked up in vain are not read. -/
theorem exists_run_stages_of_none {caseSensitive : Bool} {look : Text → Option (Meaning Numeral)}
    {s : Sequence Fragment} {t : Fragment} (ht : t ∈ s.tokens) (h : look (keyOf caseSensitive t.text) = none) :
    ∃ whole, (stages caseSensitive (Stage.translateBy (fun text => .ok (look text)) Phrase.resolving)).run s =
      .error (.malformed whole .untranslatedWord) := by
  rw [run_stages_eq]
  refine ⟨_, evaluatePhrase_of_none ?_⟩
  rw [map_meaning_phraseBy]
  exact List.mem_map.2 ⟨t, ht, h⟩

/-! ## Building -/

/-- A parser can be built exactly if the settings pass their check and the delimiter of the vocabulary is a pattern. -/
theorem exists_build_iff [PatternEngine] {v : Vocabulary} {s : Settings} {before : Option (Text → Text)}
    {after : Option (Int → Int)} :
    (∃ parser, build v s before after = .ok parser) ↔ s.check = .ok () ∧ ∃ d, delimiters v = .ok d := by
  unfold build
  constructor
  · rintro ⟨parser, h⟩
    obtain ⟨⟨⟩, hs, h⟩ := bind_eq_ok.1 h
    obtain ⟨d, hd, -⟩ := bind_eq_ok.1 h
    exact ⟨hs, d, hd⟩
  · rintro ⟨hs, d, hd⟩
    obtain ⟨stage, hstage⟩ := exists_resolvingStage hs
      (if s.caseSensitive then v.dictionary else v.foldedDictionary)
    refine ⟨_, bind_eq_ok.2 ⟨(), hs, bind_eq_ok.2 ⟨d, hd, bind_eq_ok.2 ⟨stage, hstage, rfl⟩⟩⟩⟩

/-! ## Reading -/

/-- The parser that cuts a text at delimiters and gives its words what a lookup says about them. -/
def reader (caseSensitive : Bool) (d : Delimiters) (look : Text → Option (Meaning Numeral))
    (before : Option (Text → Text)) (after : Option (Int → Int)) : TextParser Fragment Int where
  cut := d.tokenize
  chain := (stages caseSensitive (Stage.translateBy (fun text => .ok (look text)) Phrase.resolving)).run
  before := before
  after := after

/-- A number parser cuts a text at the delimiter of its vocabulary and looks words up in the dictionary for its case
mode, within its tolerance. -/
theorem reader_of_build [PatternEngine] {v : Vocabulary} {s : Settings} {before : Option (Text → Text)}
    {after : Option (Int → Int)} {parser : NumberParser} (h : build v s before after = .ok parser) :
    ∃ d, delimiters v = .ok d ∧ parser.parser = reader s.caseSensitive d
      ((if s.caseSensitive then v.dictionary else v.foldedDictionary).meaningWithin s.tolerance) before after := by
  unfold build at h
  obtain ⟨-, -, h⟩ := bind_eq_ok.1 h
  obtain ⟨d, hd, h⟩ := bind_eq_ok.1 h
  obtain ⟨stage, hstage, h⟩ := bind_eq_ok.1 h
  obtain rfl := resolvingStage_eq hstage
  cases h
  exact ⟨d, hd, rfl⟩

theorem exists_reader_of_build [PatternEngine] {v : Vocabulary} {s : Settings} {before : Option (Text → Text)}
    {after : Option (Int → Int)} {parser : NumberParser} (h : build v s before after = .ok parser) :
    ∃ d look, delimiters v = .ok d ∧ parser.parser = reader s.caseSensitive d look before after := by
  obtain ⟨d, hd, hparser⟩ := reader_of_build h
  exact ⟨d, _, hd, hparser⟩

/-- Texts whose words mean the same evaluate alike. -/
theorem agree_evaluate_of_meanings {caseSensitive caseSensitive' : Bool} {d : Delimiters}
    {look look' : Text → Option (Meaning Numeral)} {text text' : Text}
    (h : (wordsOf caseSensitive d text).map look = (wordsOf caseSensitive' d text').map look')
    (before : Option (Text → Text)) (after : Option (Int → Int)) :
    Agree Eq ((reader caseSensitive d look before after).evaluate text)
      ((reader caseSensitive' d look' before after).evaluate text') := by
  obtain ⟨tokens, htokens, htexts⟩ := d.exists_tokenize text
  obtain ⟨tokens', htokens', htexts'⟩ := d.exists_tokenize text'
  show Agree Eq (d.tokenize text >>= _) (d.tokenize text' >>= _)
  rw [htokens, htokens', ok_bind, ok_bind]
  refine agree_run_stages ?_
  have hmeanings := congrArg (List.map fun text => look (keyOf caseSensitive text)) htexts
  have hmeanings' := congrArg (List.map fun text => look' (keyOf caseSensitive' text)) htexts'
  unfold wordsOf at h
  rw [List.map_map, List.map_map] at hmeanings hmeanings' h
  exact hmeanings.trans (h.trans hmeanings'.symm)

/-- Texts with the same words evaluate alike. -/
theorem agree_evaluate {caseSensitive : Bool} {d : Delimiters} {text text' : Text}
    (h : wordsOf caseSensitive d text = wordsOf caseSensitive d text') (look : Text → Option (Meaning Numeral))
    (before : Option (Text → Text)) (after : Option (Int → Int)) :
    Agree Eq ((reader caseSensitive d look before after).evaluate text)
      ((reader caseSensitive d look before after).evaluate text') :=
  agree_evaluate_of_meanings (by rw [h]) before after

/-- Texts that evaluate alike after they are prepared are parsed alike, each under its own name. -/
theorem parse_of_agree {parser : NumberParser} {text text' : Text}
    (h : Agree Eq (parser.parser.evaluate (parser.parser.prepare text))
      (parser.parser.evaluate (parser.parser.prepare text'))) :
    (∃ x, parser.parse text = .ok x ∧ parser.parse text' = .ok x) ∨
      ∃ r, parser.parse text = .error (.malformed text r) ∧ parser.parse text' = .error (.malformed text' r) := by
  unfold parse TextParser.parse
  rcases h.aboutText text text' with ⟨x, _, hx, hx', rfl⟩ | ⟨r, hr, hr'⟩
  · refine .inl ⟨parser.parser.after.getD id x, ?_, ?_⟩
    · rw [hx]
      rfl
    · rw [hx']
      rfl
  · refine .inr ⟨r, ?_, ?_⟩
    · rw [hr]
      rfl
    · rw [hr']
      rfl

section

variable {parser parser' : NumberParser} {caseSensitive caseSensitive' : Bool} {d : Delimiters}
  {look look' : Text → Option (Meaning Numeral)} {before : Option (Text → Text)} {after : Option (Int → Int)}
  {text : Text}

/-- Parsers that cut a text into words which mean the same to both parse it alike. -/
theorem parse_congr (hparser : parser.parser = reader caseSensitive d look before after)
    (hparser' : parser'.parser = reader caseSensitive' d look' before after)
    (h : (wordsOf caseSensitive d ((before.getD id) text)).map look =
      (wordsOf caseSensitive' d ((before.getD id) text)).map look') : parser.parse text = parser'.parse text := by
  have hagree := agree_evaluate_of_meanings h before after
  unfold parse
  rw [hparser, hparser']
  show ((TextParser.evaluate _ ((before.getD id) text)).mapError _).map (after.getD id) =
    ((TextParser.evaluate _ ((before.getD id) text)).mapError _).map (after.getD id)
  rcases hagree.aboutText text text with ⟨x, _, hx, hx', rfl⟩ | ⟨r, hr, hr'⟩
  · rw [hx, hx']
  · rw [hr, hr']

/-- A text with a word that is looked up in vain is malformed. -/
theorem parse_untranslatedWord (hparser : parser.parser = reader caseSensitive d look before after) {word : Text}
    (hword : word ∈ wordsOf caseSensitive d ((before.getD id) text)) (h : look word = none) :
    parser.parse text = .error (.malformed text .untranslatedWord) := by
  obtain ⟨tokens, htokens, htexts⟩ := d.exists_tokenize ((before.getD id) text)
  obtain ⟨p, hp, rfl⟩ := List.mem_map.1 hword
  obtain ⟨t, ht, htext⟩ := List.mem_map.1 (htexts.symm ▸ List.mem_map_of_mem hp)
  rw [← htext] at h
  obtain ⟨whole, hrun⟩ := exists_run_stages_of_none ht h
  unfold parse
  rw [hparser]
  show ((d.tokenize ((before.getD id) text) >>= _).mapError _).map _ = _
  rw [htokens, ok_bind]
  show (((stages caseSensitive _).run (Sequence.sorted tokens)).mapError _).map _ = _
  rw [hrun]
  rfl

end

/-- A number parser reads a number from a text, or reports that very text as malformed. -/
theorem parse_okOrMalformed [PatternEngine] {v : Vocabulary} {s : Settings} {before : Option (Text → Text)}
    {after : Option (Int → Int)} {parser : NumberParser} (h : build v s before after = .ok parser) (text : Text) :
    (∃ x, parser.parse text = .ok x) ∨ ∃ r, parser.parse text = .error (.malformed text r) := by
  obtain ⟨d, look, -, hparser⟩ := exists_reader_of_build h
  -- Every text has the words of itself.
  have hagree : Agree Eq (parser.parser.evaluate (parser.parser.prepare text))
      (parser.parser.evaluate (parser.parser.prepare text)) := by
    rw [hparser]
    exact agree_evaluate rfl look before after
  rcases parse_of_agree hagree with ⟨x, hx, -⟩ | ⟨r, hr, -⟩
  · exact .inl ⟨x, hx⟩
  · exact .inr ⟨r, hr⟩

/-- A text of which only the part before a full stop is read. -/
theorem parse_okOrMalformed_beforeFullStop :
    ∃ parser, build English.vocabulary {} (some (·.takeWhile (· != '.'))) none = .ok parser ∧
      ((∃ x, parser.parse "Seven. Apples".toList = .ok x) ∨
        ∃ r, parser.parse "Seven. Apples".toList = .error (.malformed "Seven. Apples".toList r)) := by
  obtain ⟨parser, hparser⟩ := exists_build_iff.2 ⟨show Settings.check {} = .ok () by decide, _, English.delimiters_eq⟩
  exact ⟨parser, hparser, parse_okOrMalformed hparser _⟩

/-- A number parser that changes no text reads the same number from texts with the same words, or finds both malformed
for the same reason. -/
theorem parse_sameWords [PatternEngine] {v : Vocabulary} {s : Settings} {after : Option (Int → Int)}
    {parser : NumberParser} (h : build v s none after = .ok parser) {d : Delimiters} (hd : delimiters v = .ok d)
    {text text' : Text}
    (hwords : wordsOf s.caseSensitive d text = wordsOf s.caseSensitive d text') :
    (∃ x, parser.parse text = .ok x ∧ parser.parse text' = .ok x) ∨
      ∃ r, parser.parse text = .error (.malformed text r) ∧ parser.parse text' = .error (.malformed text' r) := by
  obtain ⟨d', look, hd', hparser⟩ := exists_reader_of_build h
  obtain rfl : d' = d := Except.ok.inj (hd'.symm.trans hd)
  refine parse_of_agree ?_
  rw [hparser]
  exact agree_evaluate hwords look none after

/-- The same words in capitals, one of them twice, at other positions and between other separators, read with a
tolerance of a third. -/
theorem parse_sameWords_misspelled :
    ∃ parser d, build English.vocabulary ⟨"en".toList, false, some (.ofRatio 1 3)⟩ none none = .ok parser ∧
      delimiters English.vocabulary = .ok d ∧
      wordsOf false d "two hundret two".toList = wordsOf false d "  TWO; Hundret-two!".toList ∧
      ((∃ x, parser.parse "two hundret two".toList = .ok x ∧ parser.parse "  TWO; Hundret-two!".toList = .ok x) ∨
        ∃ r, parser.parse "two hundret two".toList = .error (.malformed "two hundret two".toList r) ∧
          parser.parse "  TWO; Hundret-two!".toList = .error (.malformed "  TWO; Hundret-two!".toList r)) := by
  obtain ⟨parser, hparser⟩ := exists_build_iff.2
    ⟨show Settings.check ⟨"en".toList, false, some (.ofRatio 1 3)⟩ = .ok () by decide +kernel, _, English.delimiters_eq⟩
  have hwords : English.words "two hundret two".toList = English.words "  TWO; Hundret-two!".toList := by
    decide +kernel
  rw [← English.wordsOf_eq, ← English.wordsOf_eq] at hwords
  exact ⟨parser, _, hparser, English.delimiters_eq, hwords, parse_sameWords hparser English.delimiters_eq hwords⟩

end TextAnalysis.NumberParser
