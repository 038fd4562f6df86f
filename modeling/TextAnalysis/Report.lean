/-
# Reports

How results are written: as lines of text, or as records in JSON.
-/
import TextAnalysis.Error

namespace TextAnalysis

/-- The forms of a report. -/
inductive ReportFormat where
  | text
  | json
  deriving DecidableEq, Repr

namespace ReportFormat

/-- The formats by name. -/
def named : List (String × ReportFormat) :=
  [("text", text), ("json", json)]

/-- The format with exactly this name. -/
def ofName? (name : Text) : Option ReportFormat :=
  (named.find? (·.1.toList == name)).map (·.2)

end ReportFormat

namespace Report

/-! ## JSON -/

/-- A value of a record. -/
inductive JsonValue where
  | text (t : Text)
  | integer (n : Int)
  deriving DecidableEq, Repr

/-- Names with values. -/
abbrev JsonRecord :=
  List (String × JsonValue)

/-- The written form of a character in a JSON string. -/
def escapeChar (c : Char) : Text :=
  if c = '"' then ['\\', '"']
  else if c = '\\' then ['\\', '\\']
  else if c = '\n' then ['\\', 'n']
  else if c = '\r' then ['\\', 'r']
  else if c = '\t' then ['\\', 't']
  else if c = '\x08' then ['\\', 'b']
  else if c = '\x0c' then ['\\', 'f']
  else if c.toNat < 0x20 then
    let digits := Nat.toDigits 16 c.toNat
    ['\\', 'u'] ++ List.replicate (4 - digits.length) '0' ++ digits
  else [c]

/-- A JSON string. -/
def jsonString (t : Text) : Text :=
  '"' :: t.flatMap escapeChar ++ ['"']

/-- A value in JSON. -/
def JsonValue.write : JsonValue → Text
  | text t => jsonString t
  | integer n => Text.ofInt n

/-- What stands between the parts of a list in JSON: nothing but commas, or every part on a line of its
own, indented by a number of spaces. -/
def jsonList (isPretty : Bool) (indent : Nat) (start finish : Char) (parts : List Text) : Text :=
  if parts.isEmpty then [start, finish]
  else if isPretty then
    let newLine (n : Nat) : Text := '\n' :: List.replicate n ' '
    start :: newLine (indent + 2) ++ (',' :: newLine (indent + 2)).intercalate parts ++
      newLine indent ++ [finish]
  else start :: [','].intercalate parts ++ [finish]

/-- A name and its value in JSON. -/
def jsonField (isPretty : Bool) (field : String × JsonValue) : Text :=
  jsonString field.1.toList ++ (if isPretty then [':', ' '] else [':']) ++ field.2.write

/-- Records as an array in JSON, with a line break at the end. -/
def jsonRecords (isPretty : Bool) (records : List JsonRecord) : Text :=
  let record (r : JsonRecord) : Text :=
    jsonList isPretty 2 '\x7b' '\x7d' (r.map (jsonField isPretty))
  jsonList isPretty 0 '[' ']' (records.map record) ++ ['\n']

/-! ## Results -/

/-- A text ended by a line break. -/
def line (t : Text) : Text :=
  t ++ ['\n']

/-- A phrase with the number that it was read as, or why it was not. -/
structure Reading where
  phrase : Text
  outcome : Except Error Int

/-- A piece of a text with its position. -/
structure Occurrence where
  text : Text
  position : Nat
  deriving DecidableEq, Repr

namespace Reading

/-- The line of a phrase. -/
def toLine (r : Reading) : Text :=
  match r.outcome with
  | .ok n => line (Text.ofInt n)
  | .error e => line ("error: ".toList ++ e.message)

/-- The record of a phrase. -/
def toRecord (r : Reading) : JsonRecord :=
  ("input", .text r.phrase) ::
    match r.outcome with
    | .ok n => [("value", .integer n)]
    | .error e => [("error", .text e.message)]

/-- Whether a phrase could not be read. -/
def isFailure (r : Reading) : Bool :=
  match r.outcome with
  | .ok _ => false
  | .error _ => true

end Reading

namespace Occurrence

/-- The line of a piece. -/
def toLine (o : Occurrence) : Text :=
  line (Text.ofNat o.position ++ '\t' :: o.text)

/-- The record of a piece. -/
def toRecord (o : Occurrence) : JsonRecord :=
  [("text", .text o.text), ("position", .integer o.position)]

end Occurrence

/-- Results in a format. -/
def write {α : Type} (format : ReportFormat) (isPretty : Bool) (toLine : α → Text)
    (toRecord : α → JsonRecord) (results : List α) : Text :=
  match format with
  | .text => results.flatMap toLine
  | .json => jsonRecords isPretty (results.map toRecord)

end Report

end TextAnalysis
