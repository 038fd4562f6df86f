/-
# Ignoring case

A vocabulary that is accepted has no word twice, up to case. So both of its dictionaries have an entry for every word,
in order, and a text that is made of its words as they are written is read alike whether case matters or not.
-/
import TextAnalysis.Proofs.Dictionaries.Keys
import TextAnalysis.Proofs.Reading
import TextAnalysis.Proofs.Vocabularies.Checks

namespace TextAnalysis

/-! ## Accepted vocabularies -/

namespace Vocabulary

/-- A word as a dictionary entry under a key made from it. -/
def entryBy (key : Text → Text) (e : VocabularyEntry) : Entry Numeral :=
  ⟨key e.word, e.numeral, e.association⟩

/-- If no two words have the same key, a dictionary has an entry for every word, in order. -/
theorem entries_dictionaryBy {v : Vocabulary} {key : Text → Text} (h : (v.entries.map fun e => key e.word).Nodup) :
    (v.dictionaryBy key).entries = v.entries.map (entryBy key) := by
  refine Dictionary.entries_ofList ?_
  rw [List.map_map]
  exact h

/-- If no two words have the same key, every word is found under its key. -/
theorem lookup?_dictionaryBy {v : Vocabulary} {key : Text → Text} (h : (v.entries.map fun e => key e.word).Nodup)
    {e : VocabularyEntry} (he : e ∈ v.entries) : (v.dictionaryBy key).lookup? (key e.word) = some (entryBy key e) := by
  have hkeys : ((v.dictionaryBy key).entries.map (·.key)).Nodup := by
    rw [entries_dictionaryBy h, List.map_map]
    exact h
  refine Dictionary.lookup?_key (e := entryBy key e) hkeys ?_
  rw [entries_dictionaryBy h]
  exact List.mem_map_of_mem he

end Vocabulary

/-! ## Reading -/

namespace NumberParser

theorem wordsOf_true (d : Delimiters) (text : Text) : wordsOf true d text = (d.pieces text).map (·.text) :=
  rfl

theorem wordsOf_false (d : Delimiters) (text : Text) :
    wordsOf false d text = (wordsOf true d text).map Text.lowercase := by
  unfold wordsOf
  rw [List.map_map]
  rfl

/-- The dictionaries of an accepted vocabulary have one entry for every word, in the order of the words and with their
values and associations, under the word as it is or in lower case. A text whose words are words of the vocabulary is
read alike whether case matters or not. -/
theorem parse_folded [PatternEngine] {v : Vocabulary} (hv : v.check = .ok ()) :
    v.dictionary.entries = v.entries.map (fun e => ⟨e.word, e.numeral, e.association⟩) ∧
      v.foldedDictionary.entries = v.entries.map (fun e => ⟨e.word.lowercase, e.numeral, e.association⟩) ∧
      ∀ (s : Settings) before after exact folded d,
        build v { s with caseSensitive := true, tolerance := none } before after = .ok exact →
        build v { s with caseSensitive := false, tolerance := none } before after = .ok folded →
        delimiters v = .ok d → ∀ text,
          (∀ word ∈ wordsOf true d ((before.getD id) text), ∃ e ∈ v.entries, e.word = word) →
            folded.parse text = exact.parse text := by
  have hfolded := (Vocabulary.check_eq_ok_iff.1 hv).distinct
  have hexact : (v.entries.map fun e => id e.word).Nodup := by
    refine List.Nodup.of_map Text.lowercase ?_
    rwa [List.map_map]
  refine ⟨Vocabulary.entries_dictionaryBy hexact, Vocabulary.entries_dictionaryBy hfolded, ?_⟩
  intro s before after exact folded d hbuild hbuild' hd text hwords
  obtain ⟨_, hd', hreader⟩ := reader_of_build hbuild
  obtain rfl := Except.ok.inj (hd'.symm.trans hd)
  obtain ⟨_, hd', hreader'⟩ := reader_of_build hbuild'
  obtain rfl := Except.ok.inj (hd'.symm.trans hd)
  refine parse_congr hreader' hreader ?_
  rw [wordsOf_false, List.map_map]
  refine List.map_congr_left fun word hword => ?_
  obtain ⟨e, he, rfl⟩ := hwords word hword
  -- Both dictionaries say of the word what the vocabulary says of it.
  have hlookup : v.dictionary.lookup? e.word = _ := Vocabulary.lookup?_dictionaryBy hexact he
  have hlookup' : v.foldedDictionary.lookup? e.word.lowercase = _ := Vocabulary.lookup?_dictionaryBy hfolded he
  show (v.foldedDictionary.lookup? e.word.lowercase).map Stage.meaning = (v.dictionary.lookup? e.word).map Stage.meaning
  rw [hlookup, hlookup']
  rfl

/-- Numerals with capital letters. -/
def capitals : Vocabulary :=
  { code := "en".toList
    name := "English".toList
    entries := [English.plain "Two" 2, English.tens "Twenty" 20, English.power "HUNDRED" 100 9 99] }

/-- Words with capital letters, read as they are and in lower case. -/
theorem parse_folded_capitals :
    ∃ exact folded d, capitals.check = .ok () ∧
      build capitals { caseSensitive := true } none none = .ok exact ∧
      build capitals { caseSensitive := false } none none = .ok folded ∧ delimiters capitals = .ok d ∧
      (∀ word ∈ wordsOf true d "Two-HUNDRED Twenty".toList, ∃ e ∈ capitals.entries, e.word = word) ∧
      folded.parse "Two-HUNDRED Twenty".toList = exact.parse "Two-HUNDRED Twenty".toList := by
  have hcheck : capitals.check = .ok () := by
    unfold Vocabulary.check Vocabulary.checkContent
    have hdelimiter : capitals.delimiter = Vocabulary.usualDelimiter := rfl
    rw [hdelimiter, English.compile_usualDelimiter]
    decide +kernel
  have hd : delimiters capitals = _ := English.delimiters_usual rfl
  obtain ⟨exact, hexact⟩ := exists_build_iff.2 ⟨show Settings.check { caseSensitive := true } = .ok () by decide, _, hd⟩
  obtain ⟨folded, hfolded⟩ := exists_build_iff.2 ⟨show Settings.check {} = .ok () by decide, _, hd⟩
  have hwords : ∀ word ∈ English.letterRuns "Two-HUNDRED Twenty".toList, ∃ e ∈ capitals.entries, e.word = word := by
    decide +kernel
  -- The usual delimiter cuts at everything that is not a letter.
  have hruns : wordsOf true ⟨Vocabulary.usualDelimiter, (Pattern.repeated (.one English.gap) 1 none true).compiled⟩
      "Two-HUNDRED Twenty".toList = English.letterRuns "Two-HUNDRED Twenty".toList := by
    rw [wordsOf_true, Delimiters.texts_pieces rfl, English.contains_gap]
    rfl
  rw [← hruns] at hwords
  exact ⟨exact, folded, _, hcheck, hexact, hfolded, hd, hwords,
    (parse_folded hcheck).2.2 {} none none exact folded _ hexact hfolded hd _ hwords⟩

end NumberParser

end TextAnalysis
