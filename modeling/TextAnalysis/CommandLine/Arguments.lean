/-
# Arguments

Reading the words of a command line as options, their values and other words. An option has a long name
and perhaps a letter; its values follow it, or are attached to it. After two hyphens alone no word is an
option.
-/
import TextAnalysis.Text

namespace TextAnalysis.CommandLine

/-- Why the reading of arguments ends early. -/
inductive Stop where
  | misuse
  | help
  | version
  deriving DecidableEq, Repr

/-- An option: how many values it takes, which values it accepts, whether it may be repeated, and whether
it ends the reading. -/
structure OptionForm where
  name : String
  letter : Option Char := none
  values : Nat := 0
  accepts : Text → Bool := fun _ => true
  isRepeatable : Bool := false
  stops : Option Stop := none

/-- What the words that are no options are: a command with the words after it, or arguments, of which
there may be a greatest number. -/
inductive WordForm where
  | command
  | arguments (most : Option Nat)
  deriving DecidableEq, Repr

/-- What has been read: the options with their values and the other words, in order. -/
structure Arguments where
  options : List (String × List Text) := []
  words : List Text := []
  deriving Repr

/-- An option of which values are missing. -/
structure Pending where
  form : OptionForm
  values : List Text

namespace Arguments

/-- Adds an option with its values, which it must accept. -/
def addOption (a : Arguments) (form : OptionForm) (values : List Text) : Except Stop Arguments :=
  match form.stops with
  | some stop => .error stop
  | none =>
    if !form.isRepeatable && a.options.any (·.1 == form.name) then .error .misuse
    else if !values.all form.accepts then .error .misuse
    else .ok { a with options := a.options ++ [(form.name, values)] }

/-- Adds a word that is an argument, of which there may be a greatest number. -/
def addWord (a : Arguments) (most : Option Nat) (word : Text) : Except Stop Arguments :=
  if most.all (a.words.length < ·) then .ok { a with words := a.words ++ [word] }
  else .error .misuse

/-- The values of an option, over all its occurrences. -/
def values (a : Arguments) (name : String) : List Text :=
  (a.options.filter (·.1 == name)).flatMap (·.2)

/-- The value of an option, if it is there. -/
def value? (a : Arguments) (name : String) : Option Text :=
  (a.values name).head?

/-- Whether an option is there. -/
def has (a : Arguments) (name : String) : Bool :=
  a.options.any (·.1 == name)

end Arguments

/-- Adds an option without a value attached, which is pending if it takes values. -/
def startOption (a : Arguments) (form : OptionForm) : Except Stop (Arguments × Option Pending) :=
  if form.values = 0 then (a.addOption form []).map fun a => (a, none)
  else .ok (a, some ⟨form, []⟩)

/-- Adds an option with a value attached, which must be its only one. -/
def attachValue (a : Arguments) (form : OptionForm) (value : Text) :
    Except Stop (Arguments × Option Pending) :=
  if form.values = 1 then (a.addOption form [value]).map fun a => (a, none) else .error .misuse

/-- Reads an option by its long name, after the hyphens. -/
def readLong (forms : List OptionForm) (a : Arguments) (text : Text) :
    Except Stop (Arguments × Option Pending) :=
  let name := text.takeWhile (· != '=')
  match forms.find? (·.name.toList == name) with
  | none => .error .misuse
  | some form =>
    match text.drop name.length with
    | [] => startOption a form
    | _ :: value => attachValue a form value

/-- Reads letters after one hyphen, each an option; what follows a letter that takes a value is its
value. -/
def readLetters (forms : List OptionForm) (a : Arguments) :
    Text → Except Stop (Arguments × Option Pending)
  | [] => .ok (a, none)
  | c :: rest =>
    match forms.find? (·.letter == some c) with
    | none => .error .misuse
    | some form =>
      if form.values = 0 then
        match a.addOption form [] with
        | .error stop => .error stop
        | .ok a => readLetters forms a rest
      else
        match rest with
        | [] => startOption a form
        | '=' :: value => attachValue a form value
        | value => attachValue a form value

/-- Whether a word has the form of an option. -/
def isOption : Text → Bool
  | '-' :: _ :: _ => true
  | _ => false

/-- Adds a value to a pending option, which is complete with its last one. -/
def addValue (a : Arguments) (p : Pending) (value : Text) :
    Except Stop (Arguments × Option Pending) :=
  let values := p.values ++ [value]
  if values.length < p.form.values then .ok (a, some ⟨p.form, values⟩)
  else (a.addOption p.form values).map fun a => (a, none)

/-- Reads words. A command ends the reading; it is returned with the words after it. -/
def readArguments (forms : List OptionForm) (wordForm : WordForm) (a : Arguments)
    (pending : Option Pending) (onlyWords : Bool) :
    List Text → Except Stop (Arguments × Option (Text × List Text))
  | [] => if pending.isSome then .error .misuse else .ok (a, none)
  | word :: rest =>
    match pending with
    | some p =>
      if isOption word then .error .misuse
      else
        match addValue a p word with
        | .error stop => .error stop
        | .ok (a, pending) => readArguments forms wordForm a pending onlyWords rest
    | none =>
      if onlyWords || !isOption word then
        match wordForm with
        | .command => if onlyWords then .error .misuse else .ok (a, some (word, rest))
        | .arguments most =>
          match a.addWord most word with
          | .error stop => .error stop
          | .ok a => readArguments forms wordForm a none onlyWords rest
      else
        match word with
        | ['-', '-'] => readArguments forms wordForm a none true rest
        | '-' :: '-' :: text =>
          match readLong forms a text with
          | .error stop => .error stop
          | .ok (a, pending) => readArguments forms wordForm a pending onlyWords rest
        | _ =>
          match readLetters forms a (word.drop 1) with
          | .error stop => .error stop
          | .ok (a, pending) => readArguments forms wordForm a pending onlyWords rest

end TextAnalysis.CommandLine
