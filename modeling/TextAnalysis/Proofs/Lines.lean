/-
# Lines of reports

A report as text is written result by result, each ended by a line break. The line of a phrase that cannot be read shows
the phrase as it was given, and the line of a piece shows the piece. Nothing else on a line can have a line break in it:
numbers, positions and the reasons of a parser have none. So a report has one line for each result and one more for each
line break in a text that it shows, and its lines are the results one by one up to the first of these.
-/
import TextAnalysis.CommandLine.Run
import TextAnalysis.Proofs.English.Words
import TextAnalysis.Proofs.Failures
import TextAnalysis.Proofs.Registries.Runs

namespace TextAnalysis

/-! ## Texts without line breaks -/

namespace Text

theorem lineBreak_not_mem_ofNat (n : Nat) : '\n' ∉ ofNat n := by
  intro h
  have hdigit : '\n'.isDigit = true := Nat.isDigit_of_mem_toDigits (by decide) (by decide) h
  exact absurd hdigit (by decide)

theorem lineBreak_not_mem_ofInt (n : Int) : '\n' ∉ ofInt n := by
  cases n with
  | ofNat n => exact lineBreak_not_mem_ofNat n
  | negSucc n =>
    -- The sign stands in front of the digits.
    have hsign : '\n' ≠ '-' := by decide
    exact List.not_mem_cons_of_ne_of_not_mem hsign (lineBreak_not_mem_ofNat (n + 1))

end Text

theorem Operation.lineBreak_not_mem_name (o : Operation) : '\n' ∉ o.name := by
  cases o <;> decide

/-- A reason has no line break unless it is worded by a caller. -/
theorem Malformation.lineBreak_not_mem_message {r : Malformation} (h : r.isStated = false) : '\n' ∉ r.message := by
  cases r with
  | stated reason => cases h
  | operandRejects first operation second low high =>
    have hname := operation.lineBreak_not_mem_name
    unfold message
    simp only [List.mem_append, Text.lineBreak_not_mem_ofInt, hname, or_false, false_or]
    decide
  | overflow first operation second =>
    have hname := operation.lineBreak_not_mem_name
    unfold message
    simp only [List.mem_append, Text.lineBreak_not_mem_ofInt, hname, or_false, false_or]
    decide
  | numbersRemain count =>
    unfold message
    simp only [List.mem_append, Text.lineBreak_not_mem_ofNat, false_or]
    decide
  | _ => decide

namespace Report

/-! ## Lines -/

/-- The lines of an output, each of which is ended by a line break. -/
def linesIn (output : Text) : List Text :=
  (output.splitOn '\n').dropLast

/-- The parts of a text between its line breaks have none. -/
theorem lineBreak_not_mem_of_mem_splitOn {t part : Text} (h : part ∈ t.splitOn '\n') : '\n' ∉ part := by
  induction t generalizing part with
  | nil =>
    obtain rfl := List.mem_singleton.1 h
    exact List.not_mem_nil
  | cons c t ih =>
    rw [List.splitOn_cons_eq_if_modifyHead] at h
    split at h
    · rcases List.mem_cons.1 h with rfl | h
      · exact List.not_mem_nil
      · exact ih h
    · rename_i hc
      obtain ⟨first, later, hparts⟩ := List.exists_cons_of_ne_nil (List.splitOn_ne_nil '\n' t)
      rw [hparts] at h ih
      rcases List.mem_cons.1 h with rfl | h
      · exact List.not_mem_cons_of_ne_of_not_mem (fun heq => hc (beq_iff_eq.2 heq.symm)) (ih (List.mem_cons_self ..))
      · exact ih (List.mem_cons_of_mem _ h)

theorem length_splitOn (t : Text) : (t.splitOn '\n').length = t.count '\n' + 1 := by
  induction t with
  | nil => rfl
  | cons c t ih =>
    rw [List.splitOn_cons_eq_if_modifyHead, List.count_cons]
    split
    · rw [List.length_cons, ih]
    · rw [List.length_modifyHead, ih, Nat.add_zero]

/-- The parts of a text stand on the first lines of an output that begins with the line of the text. -/
theorem linesIn_line_append (t rest : Text) : linesIn (line t ++ rest) = t.splitOn '\n' ++ linesIn rest := by
  unfold linesIn line
  rw [List.append_assoc, List.singleton_append, List.splitOn_append_cons_self,
    List.dropLast_append_of_ne_nil (List.splitOn_ne_nil _ _)]

/-- The lines of texts written one after the other are the parts of these texts. -/
theorem linesIn_lines (contents : List Text) :
    linesIn (contents.flatMap line) = contents.flatMap (·.splitOn '\n') := by
  induction contents with
  | nil => rfl
  | cons t contents ih => rw [List.flatMap_cons, List.flatMap_cons, linesIn_line_append, ih]

/-- There is a line for each text, and one more for each line break in the texts. -/
theorem length_linesIn_lines (contents : List Text) :
    (linesIn (contents.flatMap line)).length = contents.length + contents.flatten.count '\n' := by
  rw [linesIn_lines]
  induction contents with
  | nil => rfl
  | cons t contents ih =>
    rw [List.flatMap_cons, List.length_append, ih, length_splitOn, List.length_cons, List.flatten_cons,
      List.count_append]
    omega

/-- The first lines are the first texts exactly if these have no line breaks. -/
theorem take_linesIn_lines_iff (contents : List Text) (k : Nat) :
    (linesIn (contents.flatMap line)).take k = contents.take k ↔ ∀ t ∈ contents.take k, '\n' ∉ t := by
  rw [linesIn_lines]
  constructor
  · -- A text that is a line is a part of a text.
    intro h t ht
    rw [← h] at ht
    obtain ⟨_, -, hpart⟩ := List.mem_flatMap.1 (List.mem_of_mem_take ht)
    exact lineBreak_not_mem_of_mem_splitOn hpart
  · intro h
    induction contents generalizing k with
    | nil => rfl
    | cons t contents ih =>
      cases k with
      | zero => rfl
      | succ k =>
        rw [List.take_succ_cons] at h
        obtain ⟨ht, hcontents⟩ := List.forall_mem_cons.1 h
        rw [List.flatMap_cons, List.splitOn_eq_singleton ht, List.singleton_append, List.take_succ_cons,
          List.take_succ_cons, ih k hcontents]

/-- The lines are the texts exactly if these have no line breaks. -/
theorem linesIn_lines_iff (contents : List Text) :
    linesIn (contents.flatMap line) = contents ↔ ∀ t ∈ contents, '\n' ∉ t := by
  constructor
  · intro h t ht
    rw [← h, linesIn_lines] at ht
    obtain ⟨_, -, hpart⟩ := List.mem_flatMap.1 ht
    exact lineBreak_not_mem_of_mem_splitOn hpart
  · intro h
    rw [linesIn_lines, List.flatMap_congr fun t ht => List.splitOn_eq_singleton (h t ht), List.flatMap_singleton']

/-! ## Results -/

/-- An output holds results in their order, with what is said of each followed by a line break, and of each result it
shows a text that comes from outside. There is a line for every result and one more for every line break in a text that
is shown. The lines are the results, and the first lines the first results, exactly if these texts have none. -/
structure OneByOne {α : Type} (output : Text) (results : List α) (said shown : α → Text) : Prop where
  written : output = results.flatMap fun a => line (said a)
  length : (linesIn output).length = results.length + (results.flatMap shown).count '\n'
  lines_iff : linesIn output = results.map said ↔ ∀ a ∈ results, '\n' ∉ shown a
  first_iff : ∀ k, (linesIn output).take k = (results.take k).map said ↔ ∀ a ∈ results.take k, '\n' ∉ shown a

/-- Results are written one by one if what is said of them has no line breaks but those of the text that is shown. -/
theorem oneByOne_write {α : Type} {results : List α} {toLine said shown : α → Text}
    (hline : ∀ a, toLine a = line (said a)) (hshown : ∀ a ∈ results, (said a).count '\n' = (shown a).count '\n')
    (isPretty : Bool) (toRecord : α → JsonRecord) :
    OneByOne (write .text isPretty toLine toRecord results) results said shown := by
  have hwritten : write .text isPretty toLine toRecord results = (results.map said).flatMap line := by
    rw [List.flatMap_map]
    exact List.flatMap_congr fun a _ => hline a
  -- The line breaks are counted, and where there are none in one text there are none in the other.
  have hmem : ∀ a ∈ results, ('\n' ∉ said a ↔ '\n' ∉ shown a) := by
    intro a ha
    rw [← List.count_eq_zero, ← List.count_eq_zero, hshown a ha]
  rw [hwritten]
  refine ⟨List.flatMap_map .., ?_, ?_, fun k => ?_⟩
  · rw [length_linesIn_lines, List.length_map, ← List.flatMap_def, List.count_flatMap, List.count_flatMap]
    exact congrArg (results.length + List.sum ·) (List.map_congr_left hshown)
  · rw [linesIn_lines_iff, List.forall_mem_map]
    exact forall₂_congr hmem
  · rw [List.map_take, take_linesIn_lines_iff, ← List.map_take, List.forall_mem_map]
    exact forall₂_congr fun a ha => hmem a (List.mem_of_mem_take ha)

/-- What is said of a phrase. -/
def Reading.said (r : Reading) : Text :=
  match r.outcome with
  | .ok n => Text.ofInt n
  | .error e => "error: ".toList ++ e.message

/-- The phrase, as far as it is shown. -/
def Reading.shown (r : Reading) : Text :=
  if r.isFailure then r.phrase else []

theorem Reading.toLine_eq (r : Reading) : r.toLine = line r.said := by
  unfold toLine said
  cases r.outcome <;> rfl

/-- What is said of a piece. -/
def Occurrence.said (o : Occurrence) : Text :=
  Text.ofNat o.position ++ '\t' :: o.text

/-- A position has no line break. -/
theorem Occurrence.count_said (o : Occurrence) : o.said.count '\n' = o.text.count '\n' := by
  unfold said
  rw [List.count_append, List.count_eq_zero.2 (Text.lineBreak_not_mem_ofNat o.position), Nat.zero_add,
    List.count_cons_of_ne (by decide)]

end Report

namespace CommandLine

open Report

variable {c : Configuration} {fs : FileAccess Id} {r : ParseRequest} {parser : NumberParser}

/-- Of a phrase that is read the number is shown; where reading fails, the phrase and a reason without line breaks. -/
theorem count_said_of_build [PatternEngine] {v : Vocabulary} {s : Settings}
    (hbuild : NumberParser.build v s none none = .ok parser) {phrases : List Text} :
    ∀ a ∈ readings parser phrases, a.said.count '\n' = a.shown.count '\n' := by
  rw [readings, List.forall_mem_map]
  intro phrase _
  unfold Reading.said Reading.shown Reading.isFailure
  cases hparse : parser.parse phrase with
  | ok n => exact List.count_eq_zero.2 (Text.lineBreak_not_mem_ofInt n)
  | error e =>
    obtain ⟨reason, rfl, hreason⟩ := NumberParser.exists_of_parse_eq_error hbuild hparse
    have hmessage := List.count_eq_zero.2 (Malformation.lineBreak_not_mem_message hreason)
    show List.count _ ("error: ".toList ++ ("Malformed text \"".toList ++ phrase ++ "\": ".toList ++
      reason.message)) = _
    simp only [List.count_append, hmessage]
    exact (Nat.zero_add _).trans (Nat.zero_add _)

/-- With settings that pass their check, a parser is built from a vocabulary of the registry. -/
theorem loadParser_eq [PatternEngine] [Toml.Reader] {s : Settings} (hs : (settingsOf c r).checked = .ok s) :
    loadParser fs c r =
      (loadRegistry fs c r.vocabularies).run >>= fun registry => (registry.build s).mapError .error := by
  unfold loadParser
  rw [hs]
  generalize loadRegistry fs c r.vocabularies = registry
  rfl

theorem exists_build_of_loadParser [PatternEngine] [Toml.Reader] (h : loadParser fs c r = .ok parser) :
    ∃ v s, NumberParser.build v s none none = .ok parser := by
  cases hs : (settingsOf c r).checked with
  | error e =>
    unfold loadParser at h
    rw [hs] at h
    cases h
  | ok s =>
    rw [loadParser_eq hs] at h
    obtain ⟨registry, -, hregistry⟩ := bind_eq_ok.1 h
    obtain ⟨v, -, hbuild⟩ := bind_eq_ok.1 (mapError_eq_ok.1 hregistry)
    exact ⟨v, s, hbuild⟩

/-- The command "parse" writes what it reads from the phrases that are given and those in files. -/
theorem runParse_eq [PatternEngine] [Toml.Reader] [PathSearch] (hparser : loadParser fs c r = .ok parser)
    {phrases : List Text} (hphrases : allPhrases fs r.phrases r.inputs = .ok phrases) {format : ReportFormat}
    (hformat : formatOf c r.format = .ok format) :
    runParse fs c r = ⟨write format c.prettyJson Reading.toLine Reading.toRecord (readings parser phrases),
      .ok (!(readings parser phrases).any Reading.isFailure)⟩ := by
  unfold runParse
  rw [hparser, hphrases, hformat]
  rfl

theorem runTokenize_eq [PatternEngine] {text : Text} {cut : Cut} {reported : List Occurrence}
    {asked : Option ReportFormat} {format : ReportFormat} (hreported : cutText cut text = .ok reported)
    (hformat : formatOf c asked = .ok format) :
    runTokenize c text cut asked =
      .ok (write format c.prettyJson Occurrence.toLine Occurrence.toRecord reported) := by
  unfold runTokenize
  rw [hformat, hreported]
  rfl

/-- **Lines of text output.** The command "parse" writes one result for each phrase, in order, and the command
"tokenize" one for each piece that is reported. Of a phrase that is not read the result shows the phrase, and of a piece
the piece. The output has a line for each result and one more for each line break in these texts. The lines are the
results one by one exactly if no text that is shown has a line break; if only the first ones have none, this holds of
the first lines. -/
theorem run_oneByOne [PatternEngine] [Toml.Reader] [PathSearch] (c : Configuration) (fs : FileAccess Id) :
    (∀ r parser phrases, loadParser fs c r = .ok parser → allPhrases fs r.phrases r.inputs = .ok phrases →
      formatOf c r.format = .ok .text →
      ∃ output, runParse fs c r = ⟨output, .ok (!(readings parser phrases).any Reading.isFailure)⟩ ∧
        OneByOne output (readings parser phrases) Reading.said Reading.shown) ∧
    ∀ text cut asked reported, cutText cut text = .ok reported → formatOf c asked = .ok .text →
      ∃ output, runTokenize c text cut asked = .ok output ∧
        OneByOne output reported Occurrence.said Occurrence.text := by
  constructor
  · intro r parser phrases hparser hphrases hformat
    obtain ⟨v, s, hbuild⟩ := exists_build_of_loadParser hparser
    refine ⟨_, runParse_eq hparser hphrases hformat, ?_⟩
    exact oneByOne_write Reading.toLine_eq (count_said_of_build hbuild) _ _
  · intro text cut asked reported hreported hformat
    refine ⟨_, runTokenize_eq hreported hformat, ?_⟩
    exact oneByOne_write (fun _ => rfl) (fun o _ => o.count_said) _ _

/-! ### English phrases -/

/-- Without any files. -/
def noFiles : FileAccess Id where
  content _ := .error .missing
  kind _ := none
  names _ := []

/-- Phrases that are given, to be written as text. -/
def textRequest (phrases : List Text) : ParseRequest where
  phrases := phrases
  inputs := []
  locale := none
  tolerance := none
  caseSensitive := false
  vocabularies := []
  format := some .text

/-- Where nothing else is asked for, phrases are read in English. -/
theorem exists_loadParser (phrases : List Text) :
    ∃ parser, loadParser noFiles {} (textRequest phrases) = .ok parser ∧
      NumberParser.ofVocabulary English.vocabulary = .ok parser := by
  obtain ⟨parser, hparser⟩ := English.exists_ofVocabulary
  have hstandard : Registry.standard = .ok (Registry.insert {} ⟨English.vocabulary, parser⟩) := by
    unfold Registry.standard Registry.register
    rw [hparser]
    rfl
  -- With no files and no settings only the registry of the program counts, which has English.
  have hregistry : (loadRegistry noFiles {} (textRequest phrases).vocabularies).run =
      .ok (Registry.insert {} ⟨English.vocabulary, parser⟩) := by
    unfold loadRegistry
    rw [hstandard]
    rfl
  have hfind := Registry.find?_insert_of_hasName {} (e := ⟨English.vocabulary, parser⟩)
    (show Registry.HasName English.vocabulary "en".toList by decide +kernel)
  have hlookup : Registry.vocabulary (Registry.insert {} ⟨English.vocabulary, parser⟩) "en".toList =
      .ok English.vocabulary := by
    unfold Registry.vocabulary Registry.lookup
    rw [hfind]
    rfl
  have hsettings : (settingsOf {} (textRequest phrases)).checked = .ok {} := rfl
  refine ⟨parser, ?_, hparser⟩
  rw [loadParser_eq hsettings, hregistry, ok_bind, Registry.build, hlookup, ok_bind]
  exact congrArg (Except.mapError CommandError.error) hparser

/-- A phrase with a line break between two letters is not read, and neither of the letters is a word. -/
theorem parse_twoLetters {parser : NumberParser} (h : NumberParser.ofVocabulary English.vocabulary = .ok parser) :
    parser.parse "x\ny".toList = .error (.malformed "x\ny".toList .untranslatedWord) := by
  obtain ⟨d, hd, hparser⟩ := NumberParser.reader_of_build h
  obtain rfl := Except.ok.inj (English.delimiters_eq.symm.trans hd)
  have hword : ['x'] ∈ English.words "x\ny".toList := by decide +kernel
  rw [← English.wordsOf_eq] at hword
  exact NumberParser.parse_untranslatedWord hparser hword ((English.meaningOf_eq ['x']).trans (by decide +kernel))

/-- The result of a phrase is the first line although a phrase after it has a line break, and pieces without line breaks
make one line each. -/
theorem run_oneByOne_thousand :
    (∃ parser output, loadParser noFiles {} (textRequest ["one thousand".toList, "x\ny".toList]) = .ok parser ∧
      (∃ isGood, runParse noFiles {} (textRequest ["one thousand".toList, "x\ny".toList]) = ⟨output, .ok isGood⟩) ∧
      (linesIn output).take 1 = [Reading.said ⟨"one thousand".toList, parser.parse "one thousand".toList⟩]) ∧
    ∃ output, runTokenize {} "ab".toList (.fixed 1) (some .text) = .ok output ∧
      linesIn output = ["0\ta".toList, "1\tb".toList] := by
  constructor
  · obtain ⟨parser, hparser, -⟩ := exists_loadParser ["one thousand".toList, "x\ny".toList]
    obtain ⟨output, houtput, hlines⟩ := (run_oneByOne {} noFiles).1 _ parser
      ["one thousand".toList, "x\ny".toList] hparser rfl rfl
    refine ⟨parser, output, hparser, ⟨_, houtput⟩, (hlines.first_iff 1).2 ?_⟩
    intro a ha
    obtain rfl := List.mem_singleton.1 ha
    have hshown : ∀ good : Bool, '\n' ∉ if good then "one thousand".toList else [] := by decide
    exact hshown _
  · obtain ⟨output, houtput, hlines⟩ := (run_oneByOne {} noFiles).2 "ab".toList (.fixed 1) (some .text)
      [⟨['a'], 0⟩, ⟨['b'], 1⟩] (by decide) rfl
    exact ⟨output, houtput, hlines.lines_iff.2 (by decide)⟩

/-- One phrase and one piece make two lines each, and none of these is the result. -/
theorem run_brokenLines :
    (∃ output, runParse noFiles {} (textRequest ["x\ny".toList]) = ⟨output, .ok false⟩ ∧
      linesIn output = ["error: Malformed text \"x".toList, "y\": untranslated word".toList]) ∧
    ∃ output, runTokenize {} "a\nb".toList (.fixed 3) (some .text) = .ok output ∧
      cutText (.fixed 3) "a\nb".toList = .ok [⟨"a\nb".toList, 0⟩] ∧ linesIn output = ["0\ta".toList, "b".toList] := by
  constructor
  · obtain ⟨parser, hparser, hvocabulary⟩ := exists_loadParser ["x\ny".toList]
    have hreadings : readings parser ["x\ny".toList] =
        [⟨"x\ny".toList, .error (.malformed "x\ny".toList .untranslatedWord)⟩] := by
      rw [readings, List.map_singleton, parse_twoLetters hvocabulary]
    have hrun : runParse noFiles {} (textRequest ["x\ny".toList]) =
        ⟨"error: Malformed text \"x\ny\": untranslated word\n".toList, .ok false⟩ := by
      rw [runParse_eq hparser (show allPhrases noFiles _ _ = .ok ["x\ny".toList] from rfl)
        (show formatOf _ _ = .ok .text from rfl), hreadings]
      rfl
    exact ⟨_, hrun, by decide⟩
  · exact ⟨"0\ta\nb\n".toList, by decide, by decide, by decide⟩

end CommandLine

end TextAnalysis
