/-
# Greater tolerances

What a number parser reads with a tolerance it reads with every greater one: a greater tolerance only adds words that
have a meaning. With a tolerance of zero it reads what it reads without one.
-/
import TextAnalysis.Integer64
import TextAnalysis.Proofs.Reading

namespace TextAnalysis

/-! ## Lengths of words -/

/-- No character but one gets longer in lower case, and that one becomes two. -/
theorem Text.length_lowercaseFrom_le (before text : Text) : (lowercaseFrom before text).length ≤ 2 * text.length := by
  induction text generalizing before with
  | nil => exact Nat.le_refl 0
  | cons c rest ih =>
    have hrest := ih (c :: before)
    have hchar : (if c = 'Σ' then [if meetsCased before && !meetsCased rest then 'ς' else 'σ'] else lowerChar c).length
        ≤ 2 := by
      unfold lowerChar
      split
      · exact Nat.le_succ 1
      · split
        · exact Nat.le_refl 2
        · exact Nat.le_succ 1
    rw [lowercaseFrom, List.length_append, List.length_cons]
    omega

/-- A piece of a text is no longer than the text. -/
theorem Delimiters.length_le_of_mem_pieces {d : Delimiters} {text : Text} {p : Piece} (h : p ∈ d.pieces text) :
    p.text.length ≤ text.length := by
  have hlength := congrArg List.length (d.slice_of_mem_pieces h)
  rw [List.length_take, List.length_drop] at hlength
  omega

namespace NumberParser

theorem length_le_of_mem_wordsOf {caseSensitive : Bool} {d : Delimiters} {text word : Text}
    (h : word ∈ wordsOf caseSensitive d text) : word.length ≤ 2 * text.length := by
  obtain ⟨p, hp, rfl⟩ := List.mem_map.1 h
  have hlength := d.length_le_of_mem_pieces hp
  unfold keyOf
  split
  · omega
  · have hlower : p.text.lowercase.length ≤ _ := Text.length_lowercaseFrom_le [] p.text
    omega

/-! ## Reading -/

/-- With a tolerance of zero, a number parser reads a text as without one, if the text has no more characters than a
64-bit number can count; only in words much longer than that could a single difference round to zero. What is read with
a tolerance, or fails for another reason than a word without a meaning, is read or fails alike with every greater
tolerance, since a word keeps its best match. -/
theorem parse_tolerance [PatternEngine] {v : Vocabulary} {s : Settings} {before : Option (Text → Text)}
    {after : Option (Int → Int)} {zero t₁ t₂ : Binary64} {exact strict narrow wide : NumberParser}
    (hzero : zero.eq .zero = true) (hle : t₁.le t₂ = true)
    (hexact : build v { s with tolerance := none } before after = .ok exact)
    (hstrict : build v { s with tolerance := some zero } before after = .ok strict)
    (hnarrow : build v { s with tolerance := some t₁ } before after = .ok narrow)
    (hwide : build v { s with tolerance := some t₂ } before after = .ok wide) (text : Text) :
    (((before.getD id) text).length ≤ Integer64.greatestUnsigned → strict.parse text = exact.parse text) ∧
      (narrow.parse text = .error (.malformed text .untranslatedWord) ∨ wide.parse text = narrow.parse text) ∧
      ∀ (d : Dictionary Numeral) word m,
        (d.matching word (.metric (.levenshtein .dissimilarity) t₁)).map Matches.best = .ok (some m) →
          (d.matching word (.metric (.levenshtein .dissimilarity) t₂)).map Matches.best = .ok (some m) := by
  obtain ⟨d, hd, hexact⟩ := reader_of_build hexact
  obtain ⟨_, hd', hstrict⟩ := reader_of_build hstrict
  obtain rfl := Except.ok.inj (hd'.symm.trans hd)
  obtain ⟨_, hd', hnarrow⟩ := reader_of_build hnarrow
  obtain rfl := Except.ok.inj (hd'.symm.trans hd)
  obtain ⟨_, hd', hwide⟩ := reader_of_build hwide
  obtain rfl := Except.ok.inj (hd'.symm.trans hd)
  refine ⟨fun hlength => ?_, ?_, fun d word m => d.best_matching_mono hle⟩
  · refine parse_congr hstrict hexact (List.map_congr_left fun word hword => ?_)
    refine Dictionary.meaningWithin_zero _ (Nat.lt_of_le_of_lt (length_le_of_mem_wordsOf hword) ?_) hzero
    have hunits : 2 * Integer64.greatestUnsigned < Binary64.unitsPerOne := by decide +kernel
    omega
  · refine or_iff_not_imp_left.2 fun hwords => parse_congr hwide hnarrow (List.map_congr_left fun word hword => ?_)
    -- Every word has a meaning within the lesser tolerance, since the parser does not report one without.
    cases hmeaning : Dictionary.meaningWithin _ (some t₁) word with
    | none => exact absurd (parse_untranslatedWord hnarrow hword hmeaning) hwords
    | some m => exact Dictionary.meaningWithin_mono _ hle hmeaning

/-- A misspelled word that is within a third of the vocabulary but not within a tenth. Zero may have a sign. -/
theorem parse_tolerance_misspelled :
    ∃ exact strict narrow wide, build English.vocabulary {} none none = .ok exact ∧
      build English.vocabulary { tolerance := some (.finite true 0) } none none = .ok strict ∧
      build English.vocabulary { tolerance := some (.ofRatio 1 10) } none none = .ok narrow ∧
      build English.vocabulary { tolerance := some (.ofRatio 1 3) } none none = .ok wide ∧
      strict.parse "two hundret".toList = exact.parse "two hundret".toList ∧
      (narrow.parse "two hundret".toList = .error (.malformed "two hundret".toList .untranslatedWord) ∨
        wide.parse "two hundret".toList = narrow.parse "two hundret".toList) ∧
      ∀ (d : Dictionary Numeral) word m,
        (d.matching word (.metric (.levenshtein .dissimilarity) (.ofRatio 1 10))).map Matches.best = .ok (some m) →
          (d.matching word (.metric (.levenshtein .dissimilarity) (.ofRatio 1 3))).map Matches.best =
            .ok (some m) := by
  have hbuild : ∀ s : Settings, s.check = .ok () → ∃ parser, build English.vocabulary s none none = .ok parser :=
    fun s hs => exists_build_iff.2 ⟨hs, _, English.delimiters_eq⟩
  obtain ⟨exact, hexact⟩ := hbuild {} (by decide)
  obtain ⟨strict, hstrict⟩ := hbuild { tolerance := some (.finite true 0) } (by decide)
  obtain ⟨narrow, hnarrow⟩ := hbuild { tolerance := some (.ofRatio 1 10) } (by decide +kernel)
  obtain ⟨wide, hwide⟩ := hbuild { tolerance := some (.ofRatio 1 3) } (by decide +kernel)
  obtain ⟨hzero, hgreater⟩ :=
    parse_tolerance (s := {}) (by decide) (by decide +kernel) hexact hstrict hnarrow hwide "two hundret".toList
  exact ⟨exact, strict, narrow, wide, hexact, hstrict, hnarrow, hwide, hzero (by decide), hgreater⟩

end NumberParser

end TextAnalysis
