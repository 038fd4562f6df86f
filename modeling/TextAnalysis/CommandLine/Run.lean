/-
# Running commands

What each command writes, and how it ends. Files are reached through an interface, so that a command is
a function of the arguments and of what the files hold. The engine for patterns and the readers of documents,
path patterns and command lines are those of this library where no others are given.
-/
import TextAnalysis.FileAccess
import TextAnalysis.CommandLine.Configuration
import TextAnalysis.CommandLine.Request
import TextAnalysis.Numeral.Registry
import TextAnalysis.Numeral.VocabularyFile
import TextAnalysis.PathPattern.Search
import TextAnalysis.Pattern.Engine
import TextAnalysis.Tokenizer.FixedLength
import TextAnalysis.Toml.Reader

namespace TextAnalysis.CommandLine

/-! ## Failures -/

/-- Why a command fails. -/
inductive CommandError where
  | unreadableConfiguration (path : Text) (failure : ReadFailure)
  | badConfiguration (path : Text) (e : Toml.Error)
  | unknownFormat (name : Text)
  | badVocabulary (path : Text) (e : Error)
  | badPathPattern (pattern : Text) (e : PathSearchError)
  | noFiles (patterns : List Text)
  | unreadableFile (path : Text) (failure : ReadFailure)
  | noInput
  | unknownMetric (name : Text)
  | notComparable (metric : Text) (e : Error)
  | notTwoLengths
  | invalidVocabulary (e : Error)
  | error (e : Error)
  deriving DecidableEq, Repr

/-- The wording of a failure. -/
def CommandError.message : CommandError → Text
  | unreadableConfiguration path failure =>
    "Failed to read config file: ".toList ++ path ++ ": ".toList ++ failure.message
  | badConfiguration path e =>
    "Configuration error: ".toList ++ path ++ ": TOML parse error: ".toList ++ e.message
  | unknownFormat name => "Configuration error: unknown output format: ".toList ++ name
  | badVocabulary path e =>
    "Failed to load vocabulary ".toList ++ path ++ ": ".toList ++ e.message
  | badPathPattern pattern (.badPattern reason) =>
    "Invalid glob pattern: ".toList ++ pattern ++ ": ".toList ++ reason
  | badPathPattern pattern (.unreadable reason) =>
    "Error resolving pattern: ".toList ++ pattern ++ ": ".toList ++ reason
  | noFiles patterns => "No files found matching: ".toList ++ [',', ' '].intercalate patterns
  | unreadableFile path failure =>
    "Failed to read file: ".toList ++ path ++ ": ".toList ++ failure.message
  | noInput => "No input given".toList
  | unknownMetric name => "Unknown metric: ".toList ++ name
  | notComparable metric e =>
    "Cannot compare with ".toList ++ metric ++ ": ".toList ++ e.message
  | notTwoLengths => "--ngram takes exactly two values".toList
  | invalidVocabulary e => "Validation failed: ".toList ++ e.message
  | error e => e.message

/-- How a command ends: the text that it writes, and whether it succeeds or why it fails. A command that
runs to its end may still report that some of its input was bad. -/
structure Outcome where
  output : Text
  result : Except CommandError Bool
  deriving Repr

variable {m : Type → Type} [Monad m] (fs : FileAccess m)

/-! ## Files -/

/-- The configuration in a file, or the usual one. -/
def loadConfiguration [Toml.Reader] (path : Option Text) : m (Except CommandError Configuration) := do
  match path with
  | none => return .ok {}
  | some path =>
    match ← fs.content path with
    | .error failure => return .error (.unreadableConfiguration path failure)
    | .ok text => return (Configuration.read text).mapError (.badConfiguration path)

/-- Registers the vocabularies in files. -/
def registerFiles [PatternEngine] [Toml.Reader] (r : Registry) :
    List Text → m (Except CommandError Registry)
  | [] => pure (.ok r)
  | path :: rest => do
    let content ← fs.content path
    match Vocabulary.ofFile path content >>= r.register with
    | .error e => return .error (.badVocabulary path e)
    | .ok (_, r) => registerFiles r rest

/-- The standard registry with the vocabularies of the configuration and further ones. -/
def loadRegistry [PatternEngine] [Toml.Reader] (c : Configuration) (extra : List Text) :
    m (Except CommandError Registry) :=
  match Registry.standard with
  | .error e => pure (.error (.error e))
  | .ok r => registerFiles fs r (c.vocabularies ++ extra)

/-- The lines of a text that are not blank, without white space at their ends. -/
def phrasesOf (text : Text) : List Text :=
  ((Text.lines text).map Text.trim).filter (! ·.isEmpty)

/-- The phrases in files. -/
def readPhrases : List Text → m (Except CommandError (List Text))
  | [] => pure (.ok [])
  | path :: rest => do
    match ← fs.content path with
    | .error failure => return .error (.unreadableFile path failure)
    | .ok text => return (← readPhrases rest).map (phrasesOf text ++ ·)

/-- The files among the paths that patterns stand for. -/
def findFiles [PathSearch] : List Text → m (Except CommandError (List Text))
  | [] => pure (.ok [])
  | pattern :: rest => do
    match ← PathSearch.search fs pattern with
    | .error e => return .error (.badPathPattern pattern e)
    | .ok paths =>
      let files ← paths.filterM fs.isFile
      return (← findFiles rest).map (files ++ ·)

/-- The phrases in the files that patterns stand for, in the order of their paths and each file once. -/
def findPhrases [PathSearch] (patterns : List Text) : m (Except CommandError (List Text)) := do
  match ← findFiles fs patterns with
  | .error e => return .error e
  | .ok [] => return .error (.noFiles patterns)
  | .ok files => readPhrases fs (Path.sortedOnce files)

/-- The phrases that are given, and those in files. -/
def allPhrases [PathSearch] (phrases inputs : List Text) : m (Except CommandError (List Text)) := do
  let found ← if inputs.isEmpty then pure (.ok []) else findPhrases fs inputs
  return do
    match phrases ++ (← found) with
    | [] => .error .noInput
    | all => return all

/-! ## Commands -/

/-- The format of a report: the one asked for, or the one of the configuration, whose name may be in any
ASCII case. -/
def formatOf (c : Configuration) (asked : Option ReportFormat) :
    Except CommandError ReportFormat :=
  match asked.or (ReportFormat.ofName? (Text.asciiLowercase c.format)) with
  | some format => .ok format
  | none => .error (.unknownFormat c.format)

/-- The settings of the command "parse". -/
def settingsOf (c : Configuration) (r : ParseRequest) : Settings :=
  { locale := r.locale.getD c.locale
    caseSensitive := r.caseSensitive || c.caseSensitive
    tolerance := r.tolerance.or c.tolerance }

/-- The parser of the command "parse". -/
def loadParser [PatternEngine] [Toml.Reader] (c : Configuration) (r : ParseRequest) :
    m (Except CommandError NumberParser) := do
  match (settingsOf c r).checked with
  | .error e => return .error (.error e)
  | .ok settings =>
    let registry ← loadRegistry fs c r.vocabularies
    return do ((← registry).build settings).mapError .error

/-- What reading phrases yields. -/
def readings (p : NumberParser) (phrases : List Text) : List Report.Reading :=
  phrases.map fun phrase => { phrase, outcome := p.parse phrase }

/-- An outcome without output. -/
def failed (e : CommandError) : Outcome :=
  ⟨[], .error e⟩

/-- An outcome that is a success if there is an output. -/
def wrote (output : Except CommandError Text) : Outcome :=
  match output with
  | .ok output => ⟨output, .ok true⟩
  | .error e => failed e

/-- Runs the command "parse". -/
def runParse [PatternEngine] [Toml.Reader] [PathSearch] (c : Configuration) (r : ParseRequest) :
    m Outcome := do
  match ← loadParser fs c r with
  | .error e => return failed e
  | .ok parser =>
    match ← allPhrases fs r.phrases r.inputs with
    | .error e => return failed e
    | .ok phrases =>
      match formatOf c r.format with
      | .error e => return failed e
      | .ok format =>
        let results := readings parser phrases
        let output := Report.write format c.prettyJson Report.Reading.toLine
          Report.Reading.toRecord results
        return ⟨output, .ok (!results.any Report.Reading.isFailure)⟩

/-- Runs the command "distance". -/
def runDistance (metric first second : Text) : Except CommandError Text :=
  match Metric.ofName? metric with
  | none => .error (.unknownMetric metric)
  | some found =>
    match found.value first second with
    | .ok value => .ok (Report.line value.toText)
    | .error e => .error (.notComparable metric e)

/-- Every occurrence of every token, in the order of positions. -/
def occurrences {α : Type} [Token α] (tokens : List α) : List Report.Occurrence :=
  let positions := tokens.foldl (fun all t => all.union (Token.positions t)) Positions.empty
  let texts := (Sequence.sorted tokens).tokens.map Token.text
  (texts.zip positions.toList).map fun (text, position) => { text, position }

/-- The occurrences of the pieces of a text. -/
def cutText [PatternEngine] (cut : Cut) (text : Text) : Except CommandError (List Report.Occurrence) :=
  let delimited (d : Except Error Delimiters) : Except CommandError (List Report.Occurrence) :=
    ((d >>= fun d => d.tokenize text).map occurrences).mapError .error
  match cut with
  | .whitespace => delimited Delimiters.whitespace
  | .pattern source => delimited (Delimiters.make source)
  | .grams [least, greatest] =>
    ((LengthRange.make least greatest >>= fun r => r.grams text).map occurrences).mapError .error
  | .grams _ => .error .notTwoLengths
  | .fixed length =>
    ((FixedLength.make length >>= fun f => f.tokenize text).map occurrences).mapError .error

/-- Runs the command "tokenize". -/
def runTokenize [PatternEngine] (c : Configuration) (text : Text) (cut : Cut) (asked : Option ReportFormat) :
    Except CommandError Text := do
  let format ← formatOf c asked
  let pieces ← cutText cut text
  return Report.write format c.prettyJson Report.Occurrence.toLine Report.Occurrence.toRecord pieces

/-- The line of a locale, with the name of the vocabulary that is found under its code. -/
def localeLine (r : Registry) (code : Text) : Text :=
  let name := ((r.find? code).map (·.vocabulary.name)).getD []
  Report.line (code ++ '\t' :: name)

/-- Runs the command "list". -/
def runList [PatternEngine] [Toml.Reader] (c : Configuration) : Listing → m Outcome
  | .locales => do
    let registry ← loadRegistry fs c []
    return wrote (registry.map fun r => r.codes.flatMap (localeLine r))
  | .metrics => pure (wrote (.ok (Metric.names.flatMap Report.line)))
  | .formats => pure (wrote (.ok (ReportFormat.named.flatMap fun f => Report.line f.1.toList)))

/-- Runs the command "validate". -/
def runValidate [PatternEngine] [Toml.Reader] (path : Text) : m Outcome := do
  let content ← fs.content path
  let title := Report.line ("Validating vocabulary: ".toList ++ path)
  let checked := do
    let v ← Vocabulary.ofFile path content
    let _ ← NumberParser.ofVocabulary v
    return v
  match checked with
  | .ok v =>
    let lines := ["✓ Vocabulary is valid!".toList, "  Locale code: ".toList ++ v.code,
      "  Locale name: ".toList ++ v.name, "  Words: ".toList ++ Text.ofNat v.entries.length]
    return ⟨title ++ lines.flatMap Report.line, .ok true⟩
  | .error e =>
    let lines := ["✗ Vocabulary is invalid!".toList, "  Error: ".toList ++ e.message]
    return ⟨title ++ lines.flatMap Report.line, .error (.invalidVocabulary e)⟩

/-- Runs a command. -/
def Command.run [PatternEngine] [Toml.Reader] [PathSearch] (c : Configuration) : Command → m Outcome
  | .parse r => runParse fs c r
  | .distance metric first second => pure (wrote (runDistance metric first second))
  | .tokenize text cut format => pure (wrote (runTokenize c text cut format))
  | .list what => runList fs c what
  | .validate path => runValidate fs path

/-- Runs what a command line asks for. -/
def Request.run [PatternEngine] [Toml.Reader] [PathSearch] (r : Request) : m Outcome := do
  match ← loadConfiguration fs r.configuration with
  | .error e => return failed e
  | .ok c => r.command.run fs c

/-! ## Programs -/

/-- How a program ends: its exit code, what it writes, and the error that it reports. -/
structure Exit where
  code : Nat
  output : Text := []
  error : Option Text := none
  deriving DecidableEq, Repr

/-- How an outcome ends the program. -/
def Outcome.toExit (o : Outcome) : Exit :=
  match o.result with
  | .ok isGood => { code := if isGood then 0 else 1, output := o.output }
  | .error e => { code := 1, output := o.output, error := some e.message }

/-- The form of a command line. -/
def usage : Text :=
  "Usage: textmine [OPTIONS] <parse|distance|tokenize|list|validate> ...".toList

/-- How the program ends without running a command. -/
def Stop.toExit : Stop → Exit
  | misuse => { code := 2 }
  | help => { code := 0, output := Report.line usage }
  | version => { code := 0, output := Report.line "textmine 0.1.0".toList }

/-- Runs the program with the words of its command line and the configuration that the environment
names. -/
def runProgram [PatternEngine] [Toml.Reader] [PathSearch] [ArgumentReader] (environment : Option Text)
    (words : List Text) : m Exit := do
  match ArgumentReader.read environment words with
  | .error stop => return stop.toExit
  | .ok request => return (← request.run fs).toExit

end TextAnalysis.CommandLine
