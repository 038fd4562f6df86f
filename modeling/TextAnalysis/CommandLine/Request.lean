/-
# Requests

What a command line asks for: a command with its arguments, and the options that hold for all commands.
-/
import TextAnalysis.Report
import TextAnalysis.Integer64
import TextAnalysis.Binary64.Literal
import TextAnalysis.CommandLine.Arguments

namespace TextAnalysis.CommandLine

/-! ## Commands -/

/-- What to read as numbers, and how; what is not given comes from the configuration. -/
structure ParseRequest where
  phrases : List Text
  inputs : List Text
  locale : Option Text
  tolerance : Option Binary64
  caseSensitive : Bool
  vocabularies : List Text
  format : Option ReportFormat

/-- How to cut a text: at white space, at a pattern, into n-grams between the given bounds, or into equal
lengths. -/
inductive Cut where
  | whitespace
  | pattern (source : Text)
  | grams (bounds : List Nat)
  | fixed (length : Nat)

/-- What can be listed. -/
inductive Listing where
  | locales
  | metrics
  | formats

/-- A command. -/
inductive Command where
  | parse (r : ParseRequest)
  | distance (metric first second : Text)
  | tokenize (text : Text) (cut : Cut) (format : Option ReportFormat)
  | list (what : Listing)
  | validate (vocabulary : Text)

/-- A command with the path of the configuration. -/
structure Request where
  configuration : Option Text
  command : Command

/-- A reader of command lines; the environment may name a configuration. The program is stated for any
reader. -/
class ArgumentReader where
  read (environment : Option Text) (words : List Text) : Except Stop Request

/-! ## Values -/

/-- A value that must be there. -/
def required {α : Type} (value : Option α) : Except Stop α :=
  match value with
  | some a => .ok a
  | none => .error .misuse

/-- The value of an option, read by a function that may refuse it. -/
def valueBy? {α : Type} (a : Arguments) (name : String) (read : Text → Option α) :
    Except Stop (Option α) :=
  match a.value? name with
  | none => .ok none
  | some value => (required (read value)).map some

/-- A path, which is not empty. -/
def path? (value : Text) : Option Text :=
  if value.isEmpty then none else some value

/-- A natural number of 64 bits, in digits with an optional plus sign. -/
def natural? (value : Text) : Option Nat :=
  let digits := match value with
    | '+' :: rest => rest
    | value => value
  (Text.toNat? digits).filter (· ≤ Integer64.greatestUnsigned)

/-- Whether a value is a path. -/
def isPath (value : Text) : Bool :=
  (path? value).isSome

/-- Whether a value is a natural number. -/
def isNatural (value : Text) : Bool :=
  (natural? value).isSome

/-! ## Options -/

/-- The options of every command. How much is logged has no effect on what is written. -/
def commonForms : List OptionForm :=
  [{ name := "config", values := 1, accepts := isPath },
   { name := "quiet", letter := some 'q' },
   { name := "verbose", letter := some 'v', isRepeatable := true },
   { name := "help", letter := some 'h', stops := some .help }]

/-- The option for the version, which stands before the command. -/
def versionForm : OptionForm :=
  { name := "version", letter := some 'V', stops := some .version }

/-- The option for the format of a report. -/
def formatForm : OptionForm :=
  { name := "format", letter := some 'f', values := 1
    accepts := fun value => (ReportFormat.ofName? value).isSome }

/-- The options of the command "parse". -/
def parseForms : List OptionForm :=
  [{ name := "input", letter := some 'i', values := 1, isRepeatable := true },
   { name := "locale", letter := some 'l', values := 1 },
   { name := "fuzzy", values := 1, accepts := fun value => (Binary64.ofText? value).isSome },
   { name := "case-sensitive" },
   { name := "vocabulary", values := 1, accepts := isPath, isRepeatable := true },
   formatForm]

/-- The options of the command "tokenize". -/
def tokenizeForms : List OptionForm :=
  [{ name := "pattern", values := 1 },
   { name := "ngram", values := 2, accepts := isNatural, isRepeatable := true },
   { name := "fixed", values := 1, accepts := isNatural },
   formatForm]

/-- The options of the command "validate". -/
def validateForms : List OptionForm :=
  [{ name := "vocabulary", letter := some 'c', values := 1, accepts := isPath }]

/-! ## Reading commands -/

/-- Reads the arguments of the command "parse". -/
def readParse (a : Arguments) : Except Stop Command := do
  let inputs := a.values "input"
  let tolerance ← valueBy? a "fuzzy" Binary64.ofText?
  let vocabularies ← (a.values "vocabulary").mapM fun value => required (path? value)
  let format ← valueBy? a "format" ReportFormat.ofName?
  if a.words.isEmpty && inputs.isEmpty then .error .misuse
  return .parse
    { phrases := a.words, inputs, locale := a.value? "locale", tolerance
      caseSensitive := a.has "case-sensitive", vocabularies, format }

/-- Reads the arguments of the command "tokenize", which takes at most one way to cut. -/
def readTokenize (a : Arguments) : Except Stop Command := do
  let bounds ← (a.values "ngram").mapM fun value => required (natural? value)
  let length ← valueBy? a "fixed" natural?
  let format ← valueBy? a "format" ReportFormat.ofName?
  let cut ← match a.value? "pattern", bounds, length with
    | none, [], none => pure Cut.whitespace
    | some source, [], none => pure (Cut.pattern source)
    | none, _ :: _, none => pure (Cut.grams bounds)
    | none, [], some length => pure (Cut.fixed length)
    | _, _, _ => .error .misuse
  match a.words with
  | [text] => return .tokenize text cut format
  | _ => .error .misuse

/-- Reads the arguments of the command "distance". -/
def readDistance (a : Arguments) : Except Stop Command :=
  match a.words with
  | [metric, first, second] => .ok (.distance metric first second)
  | _ => .error .misuse

/-- Reads the arguments of the command "validate". -/
def readValidate (a : Arguments) : Except Stop Command := do
  return .validate (← required ((a.value? "vocabulary").bind path?))

/-- A command without commands of its own: its name and its options, the greatest number of its
arguments, and how it is read. -/
structure CommandForm where
  name : String
  options : List OptionForm := []
  most : Option Nat
  read : Arguments → Except Stop Command

/-- The commands apart from the listings. -/
def commands : List CommandForm :=
  [{ name := "parse", options := parseForms, most := none, read := readParse },
   { name := "distance", most := some 3, read := readDistance },
   { name := "tokenize", options := tokenizeForms, most := some 1, read := readTokenize },
   { name := "validate", options := validateForms, most := some 0, read := readValidate }]

/-- The listings. -/
def listings : List CommandForm :=
  [{ name := "locales", most := some 0, read := fun _ => .ok (.list .locales) },
   { name := "metrics", most := some 0, read := fun _ => .ok (.list .metrics) },
   { name := "formats", most := some 0, read := fun _ => .ok (.list .formats) }]

/-- Whether a name is that of a command, or asks for help. -/
def isNamed (forms : List CommandForm) (name : Text) : Bool :=
  name = "help".toList || forms.any (·.name.toList == name)

/-- Whether there is help on the words after "list help". -/
def isListTopic : List Text → Bool
  | [] => true
  | [name] => isNamed listings name
  | _ => false

/-- Whether there is help on the words after "help". -/
def isTopic : List Text → Bool
  | [] => true
  | name :: words =>
    if name = "list".toList then isListTopic words else words.isEmpty && isNamed commands name

/-- The path of the configuration, given the one of the environment and what each part of the command line
says: the last one there, or else that of the environment. No path is empty, and a part that says nothing
asks the environment. -/
def configurationOf (environment : Option Text) (found : List (Option Text)) :
    Except Stop (Option Text) :=
  if environment = some [] ∧ found.any (·.isNone) then .error .misuse
  else .ok ((found.filterMap id).getLast?.or environment)

/-- Reads a command and its arguments, given the commands and the topics of help that there are. -/
def readCommand (environment : Option Text) (found : List (Option Text)) (forms : List CommandForm)
    (isTopic : List Text → Bool) (name : Text) (words : List Text) : Except Stop Request := do
  if name = "help".toList then .error (if isTopic words then .help else .misuse)
  let form ← required (forms.find? (·.name.toList == name))
  let (a, _) ← readArguments (form.options ++ commonForms) (.arguments form.most) {} none false words
  let command ← form.read a
  let configuration ← configurationOf environment (found ++ [a.value? "config"])
  return { configuration, command }

/-- Reads a part of a command line that ends with the name of a command: what it says of the
configuration, the name and the words after it. -/
def readLead (forms : List OptionForm) (words : List Text) :
    Except Stop (Option Text × Text × List Text) := do
  let (a, rest) ← readArguments (forms ++ commonForms) .command {} none false words
  let (name, words) ← required rest
  return (a.value? "config", name, words)

/-- Reads a command line; the environment may name a configuration. -/
def Request.read (environment : Option Text) (words : List Text) : Except Stop Request := do
  let (first, name, words) ← readLead [versionForm] words
  if name = "list".toList then
    let (second, name, words) ← readLead [] words
    readCommand environment [first, second] listings isListTopic name words
  else readCommand environment [first] commands isTopic name words

/-- The command lines of this program. -/
instance Request.argumentReader : ArgumentReader where
  read := Request.read

end TextAnalysis.CommandLine
