/-
# Runs of registrations

A run is a list of registrations, of vocabularies as they are or of those in files. One that fails changes nothing. So
a name always leads to the vocabulary that was registered last under it, as a code or as an alias and in any case. It
makes no difference whether a registration is one change of the registry or several steps in place, of which the first
may fail.
-/
import Mathlib.Data.List.Induction
import TextAnalysis.Numeral.Registry
import TextAnalysis.Numeral.VocabularyFile
import TextAnalysis.Proofs.English.Words
import TextAnalysis.Toml.Reader

namespace TextAnalysis.Registry

/-! ## Names -/

/-- Whether a text is the code of a vocabulary or one of its aliases, up to case. -/
def HasName (v : Vocabulary) (name : Text) : Prop :=
  ∃ known ∈ v.code :: v.aliases, known.lowercase = name.lowercase

instance (v : Vocabulary) (name : Text) : Decidable (HasName v name) :=
  inferInstanceAs (Decidable (∃ known ∈ v.code :: v.aliases, known.lowercase = name.lowercase))

theorem mem_namesOf {v : Vocabulary} {name : Text} : name.lowercase ∈ namesOf v ↔ HasName v name :=
  List.mem_map

/-- What the index holds under a name in lower case. -/
def under (r : Registry) (key : Text) : Option Registered :=
  (r.index.find? (·.1 == key)).map (·.2)

theorem find?_eq_under (r : Registry) (name : Text) : r.find? name = r.under name.lowercase :=
  rfl

theorem under_cons (locales : List Registered) (index : List (Text × Registered)) (name : Text) (e : Registered)
    (key : Text) :
    under ⟨locales, (name, e) :: index⟩ key = if key = name then some e else under ⟨locales, index⟩ key := by
  unfold under
  rw [List.find?_cons]
  by_cases h : key = name
  · simp [h]
  · have hne : (name == key) = false := by simpa using Ne.symm h
    rw [hne, if_neg h]

/-- After a vocabulary was added its names lead to it, and all others to where they led before. -/
theorem under_insert (r : Registry) (e : Registered) (key : Text) :
    (r.insert e).under key = if key ∈ namesOf e.vocabulary then some e else r.under key := by
  have hnames : ∀ (names : List Text) (locales : List Registered),
      under ⟨locales, names.map (fun name => (name, e)) ++ r.index⟩ key =
        if key ∈ names then some e else r.under key := by
    intro names locales
    induction names with
    | nil => simp [under]
    | cons name names ih =>
      rw [List.map_cons, List.cons_append, under_cons, ih]
      by_cases h : key = name
      · simp [h]
      · simp [h]
  exact hnames _ _

theorem find?_insert_of_hasName (r : Registry) {e : Registered} {name : Text} (h : HasName e.vocabulary name) :
    (r.insert e).find? name = some e := by
  rw [find?_eq_under, under_insert, if_pos (mem_namesOf.2 h)]

theorem find?_insert_of_not_hasName (r : Registry) {e : Registered} {name : Text} (h : ¬ HasName e.vocabulary name) :
    (r.insert e).find? name = r.find? name := by
  rw [find?_eq_under, under_insert, if_neg (mt mem_namesOf.1 h), find?_eq_under]

/-- What a registry answers to a name that leads to a vocabulary. -/
theorem answers_of_some {r : Registry} {name : Text} {e : Registered} (h : r.find? name = some e) :
    r.get name = .ok e.parser ∧ r.vocabulary name = .ok e.vocabulary ∧ r.contains name = true := by
  unfold get vocabulary contains lookup
  rw [h]
  exact ⟨rfl, rfl, rfl⟩

/-- What a registry answers to a name that leads to nothing. -/
theorem answers_of_none {r : Registry} {name : Text} (h : r.find? name = none) :
    r.get name = .error (.unsupportedLocale name) ∧ r.vocabulary name = .error (.unsupportedLocale name) ∧
      r.contains name = false := by
  unfold get vocabulary contains lookup
  rw [h]
  exact ⟨rfl, rfl, rfl⟩

/-! ## Changes in place -/

/-- Steps that change a registry in place. What a step has changed stays changed if a later one fails. -/
abbrev InPlace (β : Type) := EStateM Error Registry β

namespace InPlace

variable {β : Type}

/-- The result of a computation. The steps end here if it fails. -/
def demand (x : Except Error β) : InPlace β := fun r =>
  match x with
  | .ok b => .ok b r
  | .error e => .error e r

/-- Puts a vocabulary under a name, in place of what was there. -/
def putUnder (e : Registered) (name : Text) : InPlace Unit :=
  modify fun r => { r with index := (name, e) :: r.index.filter fun entry => entry.1 != name }

/-- Takes the vocabularies with a code out of the list of locales. -/
def dropCode (code : Text) : InPlace Unit :=
  modify fun r =>
    { r with locales := r.locales.filter fun old => !old.vocabulary.code.eqIgnoringAsciiCase code }

/-- Puts a vocabulary at the end of the list of locales. -/
def addLocale (e : Registered) : InPlace Unit :=
  modify fun r => { r with locales := r.locales ++ [e] }

end InPlace

/-- Two registries list the same locales and hold the same under every name. -/
structure Alike (r r' : Registry) : Prop where
  locales : r.locales = r'.locales
  under : ∀ key, r.under key = r'.under key

theorem Alike.find?_eq {r r' : Registry} (h : Alike r r') (name : Text) : r.find? name = r'.find? name :=
  h.under name.lowercase

theorem Alike.codes_eq {r r' : Registry} (h : Alike r r') : r.codes = r'.codes := by
  unfold codes
  rw [h.locales]

/-- A name leads to what was put under it in place of what was there, and other names lead where they led before. -/
theorem under_putUnder (r : Registry) (e : Registered) (name key : Text) :
    under { r with index := (name, e) :: r.index.filter fun entry => entry.1 != name } key =
      if key = name then some e else r.under key := by
  rw [under_cons]
  by_cases h : key = name
  · rw [if_pos h, if_pos h]
  · rw [if_neg h, if_neg h]
    unfold under
    rw [List.find?_filter]
    congr 2
    funext entry
    by_cases hentry : entry.1 = key
    · simp [hentry, h]
    · simp [hentry]

/-- Putting a vocabulary under several names changes nothing else. -/
theorem exists_putUnder (e : Registered) (names : List Text) (r : Registry) :
    ∃ r', names.forM (InPlace.putUnder e) r = .ok () r' ∧ r'.locales = r.locales ∧
      ∀ key, r'.under key = if key ∈ names then some e else r.under key := by
  induction names generalizing r with
  | nil => exact ⟨r, rfl, rfl, fun key => by simp⟩
  | cons name names ih =>
    obtain ⟨r', hr', hlocales, hunder⟩ :=
      ih { r with index := (name, e) :: r.index.filter fun entry => entry.1 != name }
    refine ⟨r', hr', hlocales, fun key => ?_⟩
    rw [hunder, under_putUnder]
    by_cases hkey : key = name
    · simp [hkey]
    · simp [hkey]

theorem demand_eq_ok {β : Type} {x : Except Error β} {b : β} (h : x = .ok b) (r : Registry) :
    InPlace.demand x r = .ok b r := by
  unfold InPlace.demand
  rw [h]

theorem demand_eq_error {β : Type} {x : Except Error β} {e : Error} (h : x = .error e) (r : Registry) :
    InPlace.demand x r = .error e r := by
  unfold InPlace.demand
  rw [h]

/-! ## Registrations -/

/-- A vocabulary is registered as it is, or the one in a file, given what reading the file yields. -/
inductive Registration where
  | vocabulary (v : Vocabulary)
  | file (path : Text) (content : Except ReadFailure Text)

section

variable [PatternEngine] [Toml.Reader]

namespace Registration

/-- The vocabulary to register. -/
def source : Registration → Except Error Vocabulary
  | vocabulary v => .ok v
  | file path content => Vocabulary.ofFile path content

/-- What is registered: the vocabulary with its parser, unless there is no vocabulary or no parser for it. -/
def outcome (s : Registration) : Except Error Registered := do
  let v ← s.source
  let parser ← NumberParser.ofVocabulary v
  return ⟨v, parser⟩

/-- Registers the vocabulary of a registration. -/
def register (s : Registration) (r : Registry) : Except Error (NumberParser × Registry) := do
  let v ← s.source
  r.register v

end Registration

/-- The registry after a registration. -/
def apply (r : Registry) (s : Registration) : Registry :=
  match s.register r with
  | .ok (_, next) => next
  | .error _ => r

/-- The registry after registrations, which starts without any. -/
def run (rs : List Registration) : Registry :=
  rs.foldl apply {}

@[simp] theorem run_concat (rs : List Registration) (s : Registration) : run (rs ++ [s]) = (run rs).apply s := by
  unfold run
  rw [List.foldl_concat]

theorem Registration.register_eq (s : Registration) (r : Registry) :
    s.register r = s.outcome.map fun e => (e.parser, r.insert e) := by
  unfold Registration.register Registration.outcome
  cases s.source with
  | error e => rfl
  | ok v =>
    show r.register v = (NumberParser.ofVocabulary v >>= _).map _
    unfold Registry.register
    cases NumberParser.ofVocabulary v with
    | error e => rfl
    | ok parser => rfl

theorem register_vocabulary (v : Vocabulary) (r : Registry) : (Registration.vocabulary v).register r = r.register v :=
  rfl

theorem apply_of_ok {s : Registration} {e : Registered} (h : s.outcome = .ok e) (r : Registry) :
    r.apply s = r.insert e := by
  unfold apply
  rw [s.register_eq, h]
  rfl

theorem apply_of_error {s : Registration} {e : Error} (h : s.outcome = .error e) (r : Registry) : r.apply s = r := by
  unfold apply
  rw [s.register_eq, h]
  rfl

/-! ### The last registration of a name -/

/-- No registration of a list that succeeds has a given name. -/
def NoneUnder (rs : List Registration) (name : Text) : Prop :=
  ∀ s ∈ rs, ∀ e, s.outcome = .ok e → ¬ HasName e.vocabulary name

/-- What the last of the registrations registers that succeed and have a given name. -/
def LastUnder (rs : List Registration) (name : Text) (e : Registered) : Prop :=
  ∃ before s after, rs = before ++ s :: after ∧ s.outcome = .ok e ∧ HasName e.vocabulary name ∧
    NoneUnder after name

theorem noneUnder_concat {rs : List Registration} {s : Registration} {name : Text} :
    NoneUnder (rs ++ [s]) name ↔
      NoneUnder rs name ∧ ∀ e, s.outcome = .ok e → ¬ HasName e.vocabulary name := by
  simp only [NoneUnder, List.forall_mem_append, List.forall_mem_singleton]

/-- A registration that fails or has other names leaves the last one of a name as it was. -/
theorem LastUnder.concat {rs : List Registration} {name : Text} {e : Registered} (h : LastUnder rs name e)
    {s : Registration} (hs : ∀ e', s.outcome = .ok e' → ¬ HasName e'.vocabulary name) :
    LastUnder (rs ++ [s]) name e := by
  obtain ⟨before, last, after, rfl, hlast, hname, hafter⟩ := h
  refine ⟨before, last, after ++ [s], ?_, hlast, hname, noneUnder_concat.2 ⟨hafter, hs⟩⟩
  rw [List.append_assoc, List.cons_append]

/-- A name has a last registration, or none. -/
theorem lastUnder_or_noneUnder (rs : List Registration) (name : Text) :
    (∃ e, LastUnder rs name e) ∨ NoneUnder rs name := by
  induction rs using List.reverseRecOn with
  | nil => exact .inr fun s hs => absurd hs List.not_mem_nil
  | append_singleton rs s ih =>
    by_cases hs : ∃ e, s.outcome = .ok e ∧ HasName e.vocabulary name
    · obtain ⟨e, he, hname⟩ := hs
      exact .inl ⟨e, rs, s, [], rfl, he, hname, fun s hs => absurd hs List.not_mem_nil⟩
    · have hother : ∀ e, s.outcome = .ok e → ¬ HasName e.vocabulary name := fun e he hname => hs ⟨e, he, hname⟩
      rcases ih with ⟨e, hlast⟩ | hnone
      · exact .inl ⟨e, hlast.concat hother⟩
      · exact .inr (noneUnder_concat.2 ⟨hnone, hother⟩)

/-- Registrations that do not have a name leave it as it was, whether they fail or not. -/
theorem find?_foldl_of_noneUnder {rs : List Registration} {name : Text} (h : NoneUnder rs name) (r : Registry) :
    (rs.foldl apply r).find? name = r.find? name := by
  induction rs generalizing r with
  | nil => rfl
  | cons s rs ih =>
    obtain ⟨hs, hrest⟩ := List.forall_mem_cons.1 h
    rw [List.foldl_cons, ih hrest]
    cases he : s.outcome with
    | error e => rw [apply_of_error he]
    | ok e => rw [apply_of_ok he, find?_insert_of_not_hasName _ (hs e he)]

/-- A name leads to what was registered last under it. -/
theorem find?_run_of_lastUnder {rs : List Registration} {name : Text} {e : Registered} (h : LastUnder rs name e) :
    (run rs).find? name = some e := by
  obtain ⟨before, s, after, rfl, hs, hname, hafter⟩ := h
  unfold run
  rw [List.foldl_append, List.foldl_cons, find?_foldl_of_noneUnder hafter, apply_of_ok hs,
    find?_insert_of_hasName _ hname]

/-! ### In place -/

/-- The steps of a registration: the parser is built first, then the vocabulary is put under one name after the other,
and at last the list of locales is brought up to date. -/
def Registration.steps (s : Registration) : InPlace NumberParser := do
  let v ← InPlace.demand s.source
  let parser ← InPlace.demand (NumberParser.ofVocabulary v)
  (namesOf v).forM (InPlace.putUnder ⟨v, parser⟩)
  InPlace.dropCode v.code
  InPlace.addLocale ⟨v, parser⟩
  return parser

/-- The registry that steps leave behind, also where they fail. -/
def applyInPlace (r : Registry) (s : Registration) : Registry :=
  match s.steps r with
  | .ok _ next | .error _ next => next

/-- The registry after registrations that are done in place. -/
def runInPlace (rs : List Registration) : Registry :=
  rs.foldl applyInPlace {}

/-- A registration that fails has not changed the registry. -/
theorem steps_of_error {s : Registration} {e : Error} (h : s.outcome = .error e) (r : Registry) :
    s.steps r = .error e r := by
  unfold Registration.outcome at h
  unfold Registration.steps
  cases hv : s.source with
  | error e' =>
    rw [hv] at h
    cases h
    exact bind_of_error (demand_eq_error rfl r)
  | ok v =>
    rw [hv, ok_bind] at h
    rw [bind_of_ok (demand_eq_ok rfl r)]
    cases hparser : NumberParser.ofVocabulary v with
    | error e' =>
      rw [hparser] at h
      cases h
      exact bind_of_error (demand_eq_error rfl r)
    | ok parser =>
      rw [hparser] at h
      cases h

/-- A registration in place leaves a registry that is like the one with the vocabulary added. -/
theorem exists_steps_of_ok {s : Registration} {e : Registered} (h : s.outcome = .ok e) {r r' : Registry}
    (halike : Alike r r') : ∃ next, s.steps r = .ok e.parser next ∧ Alike next (r'.insert e) := by
  obtain ⟨v, hv, h⟩ := bind_eq_ok.1 h
  obtain ⟨parser, hparser, h⟩ := bind_eq_ok.1 h
  cases h
  obtain ⟨named, hnamed, hlocales, hunder⟩ := exists_putUnder ⟨v, parser⟩ (namesOf v) r
  refine ⟨{ named with locales := (r'.insert ⟨v, parser⟩).locales }, ?_, rfl, fun key => ?_⟩
  · unfold Registration.steps
    rw [bind_of_ok (demand_eq_ok hv r), bind_of_ok (demand_eq_ok hparser r), bind_of_ok hnamed]
    unfold insert
    rw [← halike.locales, ← hlocales]
    rfl
  · rw [under_insert, ← halike.under]
    exact hunder key

/-- A run in place leads to a registry that is like the one of the run. -/
theorem alike_runInPlace (rs : List Registration) : Alike (runInPlace rs) (run rs) := by
  induction rs using List.reverseRecOn with
  | nil => exact ⟨rfl, fun _ => rfl⟩
  | append_singleton rs s ih =>
    have hrun : runInPlace (rs ++ [s]) = (runInPlace rs).applyInPlace s := by
      unfold runInPlace
      rw [List.foldl_concat]
    rw [hrun, run_concat]
    unfold applyInPlace
    cases h : s.outcome with
    | error e =>
      rw [steps_of_error h, apply_of_error h]
      exact ih
    | ok e =>
      obtain ⟨next, hnext, halike⟩ := exists_steps_of_ok h ih
      rw [hnext, apply_of_ok h]
      exact halike

/-! ### Lookups -/

/-- **The last registration of a name wins.** After any registrations, some of which may fail, a name leads to the
parser and the vocabulary of the last one that succeeded with a code or an alias equal to the name up to case. If there
is none, the name is unsupported, as it was given. A registration that fails leaves the registry as it was, also if the
registry is changed in place. The standard registry is the one after a registration of the English vocabulary. -/
theorem run_lastRegistered (rs : List Registration) :
    (∀ name e, LastUnder rs name e →
      (run rs).get name = .ok e.parser ∧ (run rs).vocabulary name = .ok e.vocabulary ∧
        (run rs).contains name = true) ∧
    (∀ name, NoneUnder rs name →
      (run rs).get name = .error (.unsupportedLocale name) ∧
        (run rs).vocabulary name = .error (.unsupportedLocale name) ∧ (run rs).contains name = false) ∧
    (∀ name, (∃ e, LastUnder rs name e) ∨ NoneUnder rs name) ∧
    (∀ s,
      (∃ e, s.outcome = .ok e ∧ s.register (run rs) = .ok (e.parser, run (rs ++ [s]))) ∨
      (∃ e, s.outcome = .error e ∧ s.register (run rs) = .error e ∧ run (rs ++ [s]) = run rs ∧
        s.steps (runInPlace rs) = .error e (runInPlace rs))) ∧
    (∀ name, (runInPlace rs).find? name = (run rs).find? name) ∧ (runInPlace rs).codes = (run rs).codes ∧
    ∀ r, standard = .ok r → rs.foldl apply r = run (.vocabulary English.vocabulary :: rs) := by
  refine ⟨fun name e h => answers_of_some (find?_run_of_lastUnder h),
    fun name h => answers_of_none (find?_foldl_of_noneUnder h {}), lastUnder_or_noneUnder rs, fun s => ?_,
    (alike_runInPlace rs).find?_eq, (alike_runInPlace rs).codes_eq, fun r hr => ?_⟩
  · rw [s.register_eq, run_concat]
    cases h : s.outcome with
    | ok e =>
      rw [apply_of_ok h]
      exact .inl ⟨e, rfl, rfl⟩
    | error e => exact .inr ⟨e, rfl, rfl, apply_of_error h _, steps_of_error h _⟩
  · obtain ⟨⟨parser, next⟩, hnext, rfl⟩ := map_eq_ok.1 hr
    -- The standard registry is what the first registration leaves of the empty one.
    unfold run
    rw [List.foldl_cons, apply, register_vocabulary, hnext]

end

/-- A vocabulary of one word. -/
def oneWord (code name : String) (aliases : List String) : Vocabulary :=
  { code := code.toList
    name := name.toList
    aliases := aliases.map String.toList
    entries := [English.plain "uno" 1] }

/-- A vocabulary with the usual delimiter is registered. -/
theorem exists_outcome {v : Vocabulary} (h : v.delimiter = Vocabulary.usualDelimiter) :
    ∃ parser, (Registration.vocabulary v).outcome = .ok ⟨v, parser⟩ := by
  have hparser : NumberParser.ofVocabulary v = _ :=
    NumberParser.build_eq_ok (show Settings.check {} = .ok () by decide) rfl (English.delimiters_usual h)
  exact ⟨_, bind_eq_ok.2 ⟨v, rfl, bind_eq_ok.2 ⟨_, hparser, rfl⟩⟩⟩

/-- The registration of a file that is missing. -/
def missingFile : Registration :=
  .file "missing.toml".toList (.error .missing)

theorem outcome_missingFile :
    missingFile.outcome = .error (.configuration (.unreadable "missing.toml".toList .missing)) :=
  rfl

/-- Two vocabularies that share an alias but for its case, and a file that is missing. -/
def sharedAlias : List Registration :=
  [.vocabulary (oneWord "aa" "First" ["Éire"]), .vocabulary (oneWord "bb" "Second" ["ÉIRE"]), missingFile]

/-- The alias leads to the second vocabulary in any case, another name leads to nothing, and a missing file changes
nothing. There is a standard registry, in which the same registrations can be done. -/
theorem run_lastRegistered_sharedAlias :
    (∃ parser, LastUnder sharedAlias "éire".toList ⟨oneWord "bb" "Second" ["ÉIRE"], parser⟩ ∧
      (run sharedAlias).get "éire".toList = .ok parser ∧
      (run sharedAlias).vocabulary "éire".toList = .ok (oneWord "bb" "Second" ["ÉIRE"])) ∧
    (NoneUnder sharedAlias "cc".toList ∧
      (run sharedAlias).get "cc".toList = .error (.unsupportedLocale "cc".toList)) ∧
    run (sharedAlias ++ [missingFile]) = run sharedAlias ∧
    ∃ r, standard = .ok r ∧ sharedAlias.foldl apply r = run (.vocabulary English.vocabulary :: sharedAlias) := by
  obtain ⟨hlookup, hunsupported, -, hregister, -, -, hstandard⟩ := run_lastRegistered sharedAlias
  obtain ⟨first, hfirst⟩ := exists_outcome (v := oneWord "aa" "First" ["Éire"]) rfl
  obtain ⟨second, hsecond⟩ := exists_outcome (v := oneWord "bb" "Second" ["ÉIRE"]) rfl
  have hmissing : ∀ name, NoneUnder [missingFile] name := by
    intro name s hs e he
    rw [List.mem_singleton.1 hs, outcome_missingFile] at he
    cases he
  have hlast : LastUnder sharedAlias "éire".toList ⟨oneWord "bb" "Second" ["ÉIRE"], second⟩ := by
    have hname : HasName (oneWord "bb" "Second" ["ÉIRE"]) "éire".toList := by decide +kernel
    exact ⟨[.vocabulary (oneWord "aa" "First" ["Éire"])], _, [missingFile], rfl, hsecond, hname, hmissing _⟩
  have hnone : NoneUnder sharedAlias "cc".toList := by
    have hnames : ¬ HasName (oneWord "aa" "First" ["Éire"]) "cc".toList ∧
        ¬ HasName (oneWord "bb" "Second" ["ÉIRE"]) "cc".toList := by decide +kernel
    refine List.forall_mem_cons.2 ⟨fun e he => ?_, List.forall_mem_cons.2 ⟨fun e he => ?_, hmissing _⟩⟩
    · rw [← Except.ok.inj (hfirst.symm.trans he)]
      exact hnames.1
    · rw [← Except.ok.inj (hsecond.symm.trans he)]
      exact hnames.2
  refine ⟨⟨second, hlast, (hlookup _ _ hlast).1, (hlookup _ _ hlast).2.1⟩, ⟨hnone, (hunsupported _ hnone).1⟩, ?_, ?_⟩
  · rcases hregister missingFile with ⟨e, he, -⟩ | ⟨e, -, -, hsame, -⟩
    · cases outcome_missingFile.symm.trans he
    · exact hsame
  · obtain ⟨english, henglish⟩ := exists_outcome (v := English.vocabulary) rfl
    have hregistered : standard = .ok (Registry.insert {} ⟨English.vocabulary, english⟩) := by
      unfold standard
      rw [← register_vocabulary, Registration.register_eq, henglish]
      rfl
    exact ⟨_, hregistered, hstandard _ hregistered⟩

end TextAnalysis.Registry
