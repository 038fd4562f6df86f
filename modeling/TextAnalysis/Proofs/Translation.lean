/-
# From texts to phrases

A number parser without a tolerance looks up the words of a text. What it reads depends on the meanings of the
words alone: it is what is extracted from the reduced phrase.
-/
import TextAnalysis.Numeral.NumberParser
import TextAnalysis.Proofs.Delimiting
import TextAnalysis.Proofs.Reduction.Merging

namespace TextAnalysis

/-! ## Lower case -/

/-- The lower case of a text that is not empty is not empty. -/
theorem Text.lowercase_ne_nil {text : Text} (h : text ≠ []) : text.lowercase ≠ [] := by
  cases text with
  | nil => exact absurd rfl h
  | cons c rest =>
    unfold lowercase lowercaseFrom lowerChar
    split
    · simp
    · split
      · simp
      · simp

namespace NumberParser

/-! ## Words of a text -/

/-- The text under which a fragment is looked up. -/
def keyOf (caseSensitive : Bool) (text : Text) : Text :=
  if caseSensitive then text else text.lowercase

theorem keyOf_ne_nil {text : Text} (h : text ≠ []) (caseSensitive : Bool) :
    keyOf caseSensitive text ≠ [] := by
  unfold keyOf
  split
  · exact h
  · exact Text.lowercase_ne_nil h

/-- The words of a text as they are looked up. -/
def wordsOf (caseSensitive : Bool) (d : Delimiters) (text : Text) : List Text :=
  (d.pieces text).map fun p => keyOf caseSensitive p.text

/-- A fragment as a word that is not translated yet. -/
def rawWord (caseSensitive : Bool) (t : Fragment) : Word :=
  .make ⟨⟨keyOf caseSensitive t.text, t.positions, keyOf_ne_nil t.nonempty caseSensitive⟩, none⟩

theorem wordOf_eq (caseSensitive : Bool) (t : Fragment) :
    wordOf caseSensitive t = .ok (rawWord caseSensitive t) := by
  have hmake : Fragment.make (keyOf caseSensitive t.text) t.positions =
      .ok ⟨keyOf caseSensitive t.text, t.positions, keyOf_ne_nil t.nonempty caseSensitive⟩ :=
    dif_neg (keyOf_ne_nil t.nonempty caseSensitive)
  unfold wordOf Valued.raw
  show ((Fragment.make (keyOf caseSensitive t.text) t.positions).map _).map _ = _
  rw [hmake]
  rfl

/-- What a dictionary says about a word. -/
def meaningOf (d : Dictionary Numeral) (word : Text) : Option (Meaning Numeral) :=
  (d.lookup? word).map Stage.meaning

/-- A word with the meaning of its text, if there is one. -/
def translatedBy (look : Text → Option (Meaning Numeral)) (w : Word) : Word :=
  match look w.current.text with
  | some m => w.revise Phrase.resolving (w.current.resolve m.value m.association)
  | none => w

/-- A word with what a dictionary says about it. -/
def translated (d : Dictionary Numeral) (w : Word) : Word :=
  match meaningOf d w.current.text with
  | some m => w.revise Phrase.resolving (w.current.resolve m.value m.association)
  | none => w

theorem translatedBy_rawWord (look : Text → Option (Meaning Numeral)) (caseSensitive : Bool) (t : Fragment) :
    (translatedBy look (rawWord caseSensitive t)).current.meaning = look (keyOf caseSensitive t.text) := by
  unfold translatedBy
  have htext : (rawWord caseSensitive t).current.text = keyOf caseSensitive t.text := rfl
  rw [htext]
  cases look (keyOf caseSensitive t.text) <;> rfl

theorem translated_rawWord (d : Dictionary Numeral) (caseSensitive : Bool) (t : Fragment) :
    (translated d (rawWord caseSensitive t)).current.meaning =
      meaningOf d (keyOf caseSensitive t.text) :=
  translatedBy_rawWord (meaningOf d) caseSensitive t

/-- Translating by a lookup that never fails translates every word. -/
theorem translateBy_eq (look : Text → Option (Meaning Numeral)) (p : Phrase) :
    Stage.translateBy (fun text => .ok (look text)) Phrase.resolving p =
      .ok { p with tokens := p.tokens.map (translatedBy look) } := by
  unfold Stage.translateBy
  rw [Sequence.visit_eq_mapM]
  refine map_eq_ok.2 ⟨p.tokens.map (translatedBy look), mapM_eq_ok.2 ?_, rfl⟩
  rw [List.forall₂_map_right_iff, List.forall₂_same]
  intro w _
  unfold translatedBy
  dsimp only [ok_bind]
  cases look w.current.text <;> rfl

/-- The phrase that the sorted fragments of a text are translated to. -/
def phraseOf (caseSensitive : Bool) (d : Dictionary Numeral) (s : Sequence Fragment) : Phrase :=
  { tokens := s.tokens.map fun t => translated d (rawWord caseSensitive t)
    delimiter := s.delimiter
    positions := s.positions }

theorem map_wordOf_eq (caseSensitive : Bool) (s : Sequence Fragment) :
    Stage.map (wordOf caseSensitive) s =
      .ok { tokens := s.tokens.map (rawWord caseSensitive), delimiter := s.delimiter,
            positions := s.positions } := by
  have htokens : s.tokens.mapM (wordOf caseSensitive) = .ok (s.tokens.map (rawWord caseSensitive)) := by
    rw [mapM_eq_ok, List.forall₂_map_right_iff, List.forall₂_same]
    exact fun t _ => wordOf_eq caseSensitive t
  unfold Stage.map Sequence.tryMap
  rw [htokens]
  rfl

/-- The phrase of the fragments of a text, with what a lookup says about them. -/
def phraseBy (caseSensitive : Bool) (look : Text → Option (Meaning Numeral)) (s : Sequence Fragment) : Phrase :=
  { tokens := s.tokens.map fun t => translatedBy look (rawWord caseSensitive t)
    delimiter := s.delimiter
    positions := s.positions }

/-- Words mean what the lookup says about the texts under which the fragments are looked up. -/
theorem map_meaning_phraseBy (caseSensitive : Bool) (look : Text → Option (Meaning Numeral)) (s : Sequence Fragment) :
    (phraseBy caseSensitive look s).tokens.map (·.current.meaning) =
      s.tokens.map fun t => look (keyOf caseSensitive t.text) := by
  unfold phraseBy
  rw [List.map_map]
  exact List.map_congr_left fun t _ => translatedBy_rawWord look caseSensitive t

/-- A phrase that has words, all with meanings, is reduced to one number. -/
def evaluatePhrase (p : Phrase) : Except Error Int :=
  Stage.ensureAny (fun _ => true) .noWords p >>= Stage.ensureAll (·.current.isResolved) .untranslatedWord >>=
    Phrase.reduce >>= Phrase.extract

theorem run_stages_eq (caseSensitive : Bool) (look : Text → Option (Meaning Numeral)) (s : Sequence Fragment) :
    (stages caseSensitive (Stage.translateBy (fun text => .ok (look text)) Phrase.resolving)).run s =
      evaluatePhrase (phraseBy caseSensitive look s) := by
  unfold stages
  simp only [Chain.run_append, Chain.run_create]
  rw [map_wordOf_eq, ok_bind, translateBy_eq, ok_bind, List.map_map]
  rfl

/-! ## Phrases that can be read -/

/-- A phrase that reduces has meanings for all of its words. -/
theorem isResolved_of_reduce {p t : Phrase} (h : p.reduce = .ok t) :
    p.tokens.all (·.current.isResolved) = true := by
  obtain ⟨q, hmask, -⟩ := Phrase.merges_of_reduce h
  obtain ⟨ms, hms⟩ := Phrase.exists_meanings_of_mask hmask
  rw [List.all_eq_true]
  intro w hw
  obtain ⟨m, -, hm⟩ := exists_mem_of_map_eq_map_some hms hw
  unfold Valued.isResolved
  rw [hm]
  rfl

/-- A phrase from which a number is extracted after it is reduced has words. -/
theorem tokens_ne_nil_of_extract {p t : Phrase} (h : p.reduce = .ok t) {x : Int}
    (hx : t.extract = .ok x) : p.tokens ≠ [] := by
  obtain ⟨q, hmask, hmerges, -⟩ := Phrase.merges_of_reduce h
  intro hnil
  have hwords := (Phrase.mask_eq_ok_iff.1 hmask).2
  rw [hnil] at hwords
  have hreads : q.Reads [] := by
    unfold Phrase.Reads
    rw [List.forall₂_nil_left_iff.1 hwords]
    rfl
  -- No merge makes a value of nothing, so without words there is no value to extract.
  have hkeeps : ∀ ns ns', ns = [] → Phrase.Joins ns ns' → ns' = [] := by
    rintro ns ns' rfl hjoins
    exact absurd hjoins.length_eq (by simp)
  obtain ⟨ns, hns, rfl⟩ := Phrase.exists_values_of_merges hkeeps hmerges hreads rfl
  have htokens : t.tokens = [] := List.map_eq_nil_iff.1 hns
  unfold Phrase.extract at hx
  rw [htokens] at hx
  cases hx

/-- A phrase is a number exactly if it reduces to that number. -/
theorem evaluatePhrase_eq_ok_iff {p : Phrase} {x : Int} :
    evaluatePhrase p = .ok x ↔ ∃ t, p.reduce = .ok t ∧ t.extract = .ok x := by
  unfold evaluatePhrase Stage.ensureAny Stage.ensureAll Stage.ensure
  -- Both checks are passed by a phrase that reduces to a number, so they make no difference.
  constructor
  · intro h
    obtain ⟨t, h, hx⟩ := bind_eq_ok.1 h
    obtain ⟨q, h, ht⟩ := bind_eq_ok.1 h
    obtain ⟨r, h, hq⟩ := bind_eq_ok.1 h
    split at h
    · cases h
      split at hq
      · cases hq
        exact ⟨t, ht, hx⟩
      · cases hq
    · cases h
  · rintro ⟨t, ht, hx⟩
    have hall := isResolved_of_reduce ht
    have hany : p.tokens.any (fun _ => true) = true := by
      cases htokens : p.tokens with
      | nil => exact absurd htokens (tokens_ne_nil_of_extract ht hx)
      | cons => rfl
    rw [if_pos hany, ok_bind, if_pos hall, ok_bind, ht, ok_bind, hx]

/-- The stages read a phrase exactly if it reduces to a number. -/
theorem run_stages_eq_ok {caseSensitive : Bool} {d : Dictionary Numeral} {s : Sequence Fragment} {x : Int} :
    (stages caseSensitive (Stage.translate d Phrase.resolving)).run s = .ok x ↔
      ∃ t, (phraseOf caseSensitive d s).reduce = .ok t ∧ t.extract = .ok x := by
  have hrun : (stages caseSensitive (Stage.translate d Phrase.resolving)).run s =
      evaluatePhrase (phraseOf caseSensitive d s) := run_stages_eq caseSensitive (meaningOf d) s
  rw [hrun, evaluatePhrase_eq_ok_iff]

/-! ## Reading -/

/-- A vocabulary with a delimiter that is a pattern makes a parser, if the settings have no tolerance. -/
theorem build_eq_ok [PatternEngine] {v : Vocabulary} {s : Settings} (hs : s.check = .ok ())
    (htolerance : s.tolerance = none) {d : Delimiters} (hd : delimiters v = .ok d)
    {before : Option (Text → Text)} {after : Option (Int → Int)} :
    build v s before after = .ok
      { locale := v.code
        settings := s
        parser :=
          { cut := d.tokenize
            chain := (stages s.caseSensitive (Stage.translate
              (if s.caseSensitive then v.dictionary else v.foldedDictionary) Phrase.resolving)).run
            before, after } } := by
  unfold build resolvingStage
  rw [hs, htolerance, hd]
  rfl

/-- A parser without a tolerance reads a number from a text exactly if the phrase of what its words mean reduces to
that number. -/
theorem exists_phrase_of_build [PatternEngine] {v : Vocabulary} {s : Settings} (hs : s.check = .ok ())
    (htolerance : s.tolerance = none) {d : Delimiters} (hd : delimiters v = .ok d) {parser : NumberParser}
    (hparser : build v s none none = .ok parser) (text : Text) :
    ∃ p : Phrase,
      p.tokens.map (·.current.meaning) = (wordsOf s.caseSensitive d text).map
        (meaningOf (if s.caseSensitive then v.dictionary else v.foldedDictionary)) ∧
      ∀ x, parser.parse text = .ok x ↔ ∃ t, p.reduce = .ok t ∧ t.extract = .ok x := by
  rw [build_eq_ok hs htolerance hd, Except.ok.injEq] at hparser
  subst hparser
  obtain ⟨tokens, htokens, htexts⟩ := d.exists_tokenize text
  refine ⟨phraseOf s.caseSensitive (if s.caseSensitive then v.dictionary else v.foldedDictionary)
    (Sequence.sorted tokens), ?_, fun x => ?_⟩
  · unfold phraseOf wordsOf
    rw [List.map_map, List.map_map]
    -- The tokens have the texts of the pieces, so what they mean is what the keys of these mean.
    have hkeys := congrArg (List.map fun text => meaningOf
      (if s.caseSensitive then v.dictionary else v.foldedDictionary) (keyOf s.caseSensitive text)) htexts
    rw [List.map_map, List.map_map] at hkeys
    refine Eq.trans (List.map_congr_left fun t _ => ?_) hkeys
    exact translated_rawWord _ _ t
  · rw [← run_stages_eq_ok]
    unfold parse TextParser.parse TextParser.evaluate TextParser.prepare
    show Except.map _ (Except.mapError _ (d.tokenize text >>= _)) = _ ↔ _
    rw [htokens, ok_bind]
    exact map_mapError_eq_ok _

end NumberParser

end TextAnalysis
