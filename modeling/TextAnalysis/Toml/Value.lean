/-
# TOML values

The values of a TOML document, and how a document grows by headers and assignments. A table knows how it
came into being, since that decides what may still be added to it.
-/
import TextAnalysis.Text
import TextAnalysis.Binary64

namespace TextAnalysis.Toml

/-! ## Values -/

/-- How a table came into being: by a header of its own, by a header of a table inside it, by a dotted
key, or written out in braces. -/
inductive Origin where
  | header
  | implied
  | dotted
  | braces
  deriving DecidableEq, Repr

/-- A value. An array is open if its items are tables with headers of their own. -/
inductive Value where
  | text (t : Text)
  | integer (n : Int)
  | float (x : Binary64)
  | boolean (b : Bool)
  | dateTime
  | array (isOpen : Bool) (items : List Value)
  | table (origin : Origin) (entries : List (Text × Value))
  deriving Repr, Inhabited

/-- Keys with their values. -/
abbrev Entries :=
  List (Text × Value)

/-- Why a text is no document, or a document has not the expected content. -/
inductive Error where
  | badCharacter
  | badKey
  | badEscape
  | unclosedText
  | badScalar
  | badTable
  | missingEquals
  | tooMuchOnLine
  | duplicateKey (key : Text)
  | missingField (name : Text)
  | wrongType (name : Text)
  | tooDeep
  | stated (reason : Text)
  deriving DecidableEq, Repr

/-- The reason in words. -/
def Error.message : Error → Text
  | badCharacter => "invalid character".toList
  | badKey => "invalid key".toList
  | badEscape => "invalid escape sequence".toList
  | unclosedText => "unclosed string".toList
  | badScalar => "invalid value".toList
  | badTable => "invalid table or array".toList
  | missingEquals => "key with no value".toList
  | tooMuchOnLine => "unexpected content, expected a newline".toList
  | duplicateKey key => "duplicate key ".toList ++ key
  | missingField name => "missing field ".toList ++ name
  | wrongType name => "invalid type of ".toList ++ name
  | tooDeep => "document too long or nested too deeply".toList
  | stated reason => reason

/-- A reader of documents. Everything that takes its data from a document is stated for any reader. -/
class Reader where
  read : Text → Except Error Entries

/-! ## Growing a document -/

/-- The value under a key. -/
def lookup? (key : Text) (entries : Entries) : Option Value :=
  (entries.find? (·.1 == key)).map (·.2)

/-- Puts a value under a key, in place of one that is already there. -/
def put (key : Text) (value : Value) : Entries → Entries
  | [] => [(key, value)]
  | (k, v) :: rest => if k = key then (key, value) :: rest else (k, v) :: put key value rest

/-- The last table of an open array, with the items before it. -/
def lastTable? (items : List Value) : Option (List Value × Origin × Entries) :=
  match items.getLast? with
  | some (.table origin entries) => some (items.dropLast, origin, entries)
  | _ => none

/-- Changes the table to which a path of headers leads. Missing tables on the way are implied, and an open
array stands for its last table. -/
def changeAt (change : Entries → Except Error Entries) :
    List Text → Entries → Except Error Entries
  | [], entries => change entries
  | key :: path, entries =>
    match lookup? key entries with
    | none => (changeAt change path []).map fun inner => put key (.table .implied inner) entries
    | some (.table origin inner) =>
      if origin = .braces then .error (.duplicateKey key)
      else (changeAt change path inner).map fun inner => put key (.table origin inner) entries
    | some (.array true items) =>
      match lastTable? items with
      | none => .error (.duplicateKey key)
      | some (before, origin, inner) =>
        (changeAt change path inner).map fun inner =>
          put key (.array true (before ++ [.table origin inner])) entries
    | some _ => .error (.duplicateKey key)

/-- Assigns a value to a dotted key. On the way there may be tables made by dotted keys or implied by
headers; the table that takes the value must be the current one or made by dotted keys, which
`mayHold` says. -/
def assign (value : Value) (mayHold : Bool) : List Text → Entries → Except Error Entries
  | [], entries => .ok entries
  | [key], entries =>
    if mayHold && (lookup? key entries).isNone then .ok (put key value entries)
    else .error (.duplicateKey key)
  | key :: path, entries =>
    match lookup? key entries with
    | none => (assign value true path []).map fun inner => put key (.table .dotted inner) entries
    | some (.table .dotted inner) =>
      (assign value true path inner).map fun inner => put key (.table .dotted inner) entries
    | some (.table .implied inner) =>
      (assign value false path inner).map fun inner => put key (.table .implied inner) entries
    | some (.array true items) =>
      match lastTable? items with
      | none => .error (.duplicateKey key)
      | some (before, origin, inner) =>
        (assign value false path inner).map fun inner =>
          put key (.array true (before ++ [.table origin inner])) entries
    | some _ => .error (.duplicateKey key)

/-- Opens the table with a header of its own; so far it may be implied at most. -/
def openTable (key : Text) (entries : Entries) : Except Error Entries :=
  match lookup? key entries with
  | none => .ok (put key (.table .header []) entries)
  | some (.table .implied inner) => .ok (put key (.table .header inner) entries)
  | some _ => .error (.duplicateKey key)

/-- Adds a table to an open array. -/
def openItem (key : Text) (entries : Entries) : Except Error Entries :=
  match lookup? key entries with
  | none => .ok (put key (.array true [.table .header []]) entries)
  | some (.array true items) => .ok (put key (.array true (items ++ [.table .header []])) entries)
  | some _ => .error (.duplicateKey key)

end TextAnalysis.Toml
