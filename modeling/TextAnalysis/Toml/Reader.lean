/-
# TOML notation

Reading a document: keys and values on lines, headers of tables and of arrays of tables, arrays and
tables in brackets and braces, which may run over several lines, and comments.
-/
import TextAnalysis.Toml.Scalar
import TextAnalysis.Toml.Quoted

namespace TextAnalysis.Toml

/-! ## Blanks and comments -/

/-- A text without spaces and tabs at its start. -/
def dropBlanks (text : Text) : Text :=
  text.dropWhile fun c => c == ' ' || c == '\t'

/-- Skips blanks, line breaks and comments; a comment goes from a number sign to the end of its line. -/
def skipLines (inComment : Bool) : Text → Except Error Text
  | [] => .ok []
  | c :: rest =>
    if startsBreak (c :: rest) then skipLines false rest
    else if inComment then if isPlain c then skipLines true rest else .error .badCharacter
    else if c == '#' then skipLines true rest
    else if c == ' ' || c == '\t' then skipLines false rest
    else .ok (c :: rest)

/-- Skips blanks and a comment up to the end of a line. -/
def endLine (inComment : Bool) : Text → Except Error Text
  | [] => .ok []
  | c :: rest =>
    if startsBreak (c :: rest) then .ok (c :: rest)
    else if inComment then if isPlain c then endLine true rest else .error .badCharacter
    else if c == '#' then endLine true rest
    else if c == ' ' || c == '\t' then endLine false rest
    else .error .tooMuchOnLine

/-! ## Keys -/

/-- Whether a character may stand in a key without quotes. -/
def isBare (c : Char) : Bool :=
  c.isAlphanum || c == '_' || c == '-'

/-- Reads one part of a key. -/
def readKeyPart (text : Text) : Except Error (Text × Text) :=
  match text with
  | '"' :: _ => if startsLong '"' text then .error .badKey else readQuoted text
  | '\x27' :: _ => if startsLong '\x27' text then .error .badKey else readQuoted text
  | _ =>
    let part := text.takeWhile isBare
    if part.isEmpty then .error .badKey else .ok (part, text.drop part.length)

/-- Reads the parts of a dotted key, at most a number of them. -/
def readKeyParts : Nat → Text → Except Error (List Text × Text)
  | 0, _ => .error .tooDeep
  | steps + 1, text => do
    let (part, rest) ← readKeyPart (dropBlanks text)
    match dropBlanks rest with
    | '.' :: rest =>
      let (parts, rest) ← readKeyParts steps rest
      return (part :: parts, rest)
    | rest => return ([part], rest)

/-- Reads a dotted key. -/
def readKey (text : Text) : Except Error (List Text × Text) :=
  readKeyParts (text.length + 1) text

/-- Reads a key and the equals sign after it on a line. -/
def readAssigned (text : Text) : Except Error (List Text × Text) := do
  match ← readKey text with
  | (keys, '=' :: rest) => return (keys, dropBlanks rest)
  | _ => .error .missingEquals

/-- Reads a key and the equals sign after it in braces, where both may be followed by line breaks. -/
def readAssignedInBraces (text : Text) : Except Error (List Text × Text) := do
  let (keys, rest) ← readKey text
  match ← skipLines false rest with
  | '=' :: rest => return (keys, ← skipLines false rest)
  | _ => .error .missingEquals

/-! ## Values -/

/-- The largest number of brackets and braces that are open at a time. -/
def depthLimit : Nat :=
  80

mutual

/-- Reads a value. The first number bounds the number of items, the second one the depth. -/
def readValue : Nat → Nat → Text → Except Error (Value × Text)
  | 0, _, _ => .error .tooDeep
  | steps + 1, depth, text =>
    match text, depth with
    | '"' :: _, _ => (readQuoted text).map fun (t, rest) => (.text t, rest)
    | '\x27' :: _, _ => (readQuoted text).map fun (t, rest) => (.text t, rest)
    | '[' :: _, 0 | '\x7b' :: _, 0 => .error .tooDeep
    | '[' :: rest, depth + 1 => readItems steps depth [] rest
    | '\x7b' :: rest, depth + 1 => readPairs steps depth [] rest
    | _, _ => readScalar text

/-- Reads the rest of an array, of which some items have been read. -/
def readItems : Nat → Nat → List Value → Text → Except Error (Value × Text)
  | 0, _, _, _ => .error .tooDeep
  | steps + 1, depth, items, text => do
    match ← skipLines false text with
    | ']' :: rest => return (.array false items, rest)
    | start =>
      let (item, rest) ← readValue steps depth start
      let items := items ++ [item]
      match ← skipLines false rest with
      | ',' :: rest => readItems steps depth items rest
      | ']' :: rest => return (.array false items, rest)
      | _ => .error .badTable

/-- Reads the rest of a table in braces, of which some entries have been read. -/
def readPairs : Nat → Nat → Entries → Text → Except Error (Value × Text)
  | 0, _, _, _ => .error .tooDeep
  | steps + 1, depth, entries, text => do
    match ← skipLines false text with
    | '\x7d' :: rest => return (.table .braces entries, rest)
    | start =>
      let (keys, start) ← readAssignedInBraces start
      let (value, rest) ← readValue steps depth start
      let entries ← assign value true keys entries
      match ← skipLines false rest with
      | ',' :: rest => readPairs steps depth entries rest
      | '\x7d' :: rest => return (.table .braces entries, rest)
      | _ => .error .badTable

end

/-! ## Documents -/

/-- What has been read of a document: the entries, and the table to which assignments go. -/
structure Draft where
  entries : Entries := []
  current : List Text := []

/-- Opens the table to which a header leads. -/
def Draft.enter (d : Draft) (opens : Text → Entries → Except Error Entries) (keys : List Text) :
    Except Error Draft := do
  match keys.getLast? with
  | none => .error .badKey
  | some key =>
    let entries ← changeAt (opens key) keys.dropLast d.entries
    return { entries, current := keys }

/-- Reads a header of a table, after its bracket. -/
def readHeader (d : Draft) (text : Text) : Except Error (Draft × Text) := do
  match ← readKey text with
  | (keys, ']' :: rest) => return (← d.enter openTable keys, rest)
  | _ => .error .badTable

/-- Reads a header of an item of an array, after its brackets. -/
def readItemHeader (d : Draft) (text : Text) : Except Error (Draft × Text) := do
  match ← readKey text with
  | (keys, ']' :: ']' :: rest) => return (← d.enter openItem keys, rest)
  | _ => .error .badTable

/-- Reads an assignment to the current table. -/
def readAssignment (d : Draft) (text : Text) : Except Error (Draft × Text) := do
  let (keys, start) ← readAssigned text
  let (value, rest) ← readValue (text.length + 1) depthLimit start
  let entries ← changeAt (assign value true keys) d.current d.entries
  return ({ d with entries }, rest)

/-- Reads a header or an assignment. -/
def readLine (d : Draft) (text : Text) : Except Error (Draft × Text) :=
  match text with
  | '[' :: '[' :: rest => readItemHeader d rest
  | '[' :: rest => readHeader d rest
  | _ => readAssignment d text

/-- Reads lines until the text ends, at most a number of them. -/
def readLines : Nat → Draft → Text → Except Error Entries
  | 0, _, _ => .error .tooDeep
  | steps + 1, d, text => do
    match ← skipLines false text with
    | [] => return d.entries
    | start =>
      let (d, rest) ← readLine d start
      readLines steps d (← endLine false rest)

/-- A text without a byte order mark at its start. -/
def dropMark : Text → Text
  | '\uFEFF' :: rest => rest
  | text => text

/-- The entries of the document that a text writes. -/
def read (text : Text) : Except Error Entries :=
  readLines (text.length + 1) {} (dropMark text)

/-- The notation of this library. -/
instance documentReader : Reader where
  read := read

end TextAnalysis.Toml
