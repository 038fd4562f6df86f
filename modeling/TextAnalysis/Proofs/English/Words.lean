/-
# English words

The English parser cuts a text into its runs of letters and looks each of them up in lower case among the words of
the vocabulary.
-/
import TextAnalysis.Numeral.English
import TextAnalysis.Proofs.Separators
import TextAnalysis.Proofs.Translation

namespace TextAnalysis.English

/-! ## Cutting -/

/-- Whether a character is a letter of any kind. -/
def isLetter (c : Char) : Bool :=
  Category.letters.any (·.contains c)

/-- The maximal runs of letters of a text, from left to right. -/
def letterRuns (text : Text) : List Text :=
  text.runs fun c => ! isLetter c

/-- The words of a text, in lower case. -/
def words (text : Text) : List Text :=
  (letterRuns text).map Text.lowercase

/-- The characters between words. -/
def gap : CharSet :=
  .complement (.union .none (.categories Category.letters))

theorem contains_gap : gap.contains = fun c => ! isLetter c :=
  rfl

set_option maxRecDepth 10000 in
theorem syntaxOf_usualDelimiter :
    Pattern.syntaxOf Vocabulary.usualDelimiter = .ok (.repeated (.one gap) 1 none true, 2) :=
  rfl

theorem fits_gaps : (Pattern.repeated (.one gap) 1 none true).fits = true := by
  decide +kernel

theorem compile_usualDelimiter : PatternEngine.compile Vocabulary.usualDelimiter =
    .ok (Pattern.repeated (.one gap) 1 none true).compiled := by
  have hread : Pattern.read Vocabulary.usualDelimiter = .ok (.repeated (.one gap) 1 none true) := by
    unfold Pattern.read
    rw [syntaxOf_usualDelimiter, ok_bind]
    dsimp only
    rw [if_neg (by decide), if_pos fits_gaps]
    rfl
  simp only [PatternEngine.compile, hread]

/-- Where a vocabulary names no delimiter, words are cut at the runs of other characters than letters. -/
theorem delimiters_usual {v : Vocabulary} (h : v.delimiter = Vocabulary.usualDelimiter) :
    NumberParser.delimiters v =
      .ok ⟨Vocabulary.usualDelimiter, (Pattern.repeated (.one gap) 1 none true).compiled⟩ := by
  unfold NumberParser.delimiters Delimiters.make
  rw [h, compile_usualDelimiter, if_neg (by decide)]
  rfl

/-- English words are cut at the runs of other characters than letters. -/
theorem delimiters_eq :
    NumberParser.delimiters vocabulary =
      .ok ⟨Vocabulary.usualDelimiter, (Pattern.repeated (.one gap) 1 none true).compiled⟩ :=
  delimiters_usual rfl

theorem wordsOf_eq (text : Text) :
    NumberParser.wordsOf false ⟨Vocabulary.usualDelimiter, (Pattern.repeated (.one gap) 1 none true).compiled⟩ text =
      words text := by
  unfold NumberParser.wordsOf words letterRuns
  rw [← contains_gap, ← Delimiters.texts_pieces
    (d := ⟨Vocabulary.usualDelimiter, (Pattern.repeated (.one gap) 1 none true).compiled⟩) rfl text, List.map_map]
  rfl

/-! ## Looking up -/

/-- What a word of the vocabulary means. -/
def meaning? (word : Text) : Option (Meaning Numeral) :=
  (vocabulary.entries.find? (·.word == word)).map fun e => ⟨e.numeral, e.association⟩

theorem entries_foldedDictionary :
    vocabulary.foldedDictionary.entries =
      vocabulary.entries.map fun e => ⟨e.word, e.numeral, e.association⟩ := by
  decide +kernel

theorem meaningOf_eq (word : Text) :
    NumberParser.meaningOf vocabulary.foldedDictionary word = meaning? word := by
  unfold NumberParser.meaningOf Dictionary.lookup? meaning?
  rw [entries_foldedDictionary, List.find?_map, Option.map_map]
  rfl

/-- A word with a meaning is the word of an entry. -/
theorem exists_entry_of_meaning? {word : Text} {m : Meaning Numeral} (h : meaning? word = some m) :
    ∃ e ∈ vocabulary.entries, e.word = word ∧ m = ⟨e.numeral, e.association⟩ := by
  obtain ⟨e, he, rfl⟩ := Option.map_eq_some_iff.1 h
  exact ⟨e, List.mem_of_find?_eq_some he, by simpa using List.find?_some he, rfl⟩

/-! ## Reading -/

/-- There is an English parser with default settings. -/
theorem exists_ofVocabulary : ∃ parser, NumberParser.ofVocabulary vocabulary = .ok parser :=
  ⟨_, NumberParser.build_eq_ok (by decide) rfl delimiters_eq⟩

/-- The English parser reads a number from a text exactly if the phrase of what its words mean reduces to that
number. -/
theorem exists_phrase_of_ofVocabulary {parser : NumberParser}
    (h : NumberParser.ofVocabulary vocabulary = .ok parser) (text : Text) :
    ∃ p : Phrase, p.tokens.map (·.current.meaning) = (words text).map meaning? ∧
      ∀ x, parser.parse text = .ok x ↔ ∃ t, p.reduce = .ok t ∧ t.extract = .ok x := by
  obtain ⟨p, hp, hparse⟩ :=
    NumberParser.exists_phrase_of_build (by decide) rfl delimiters_eq h text
  refine ⟨p, ?_, hparse⟩
  rw [hp, ← wordsOf_eq]
  exact List.map_congr_left fun word _ => meaningOf_eq word

end TextAnalysis.English
