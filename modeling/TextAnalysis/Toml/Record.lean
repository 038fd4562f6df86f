/-
# TOML records

Taking values of expected kinds out of a document. A record is a table with fields by name, or an array
with the fields in their order; further entries do not matter.
-/
import TextAnalysis.Toml.Value
import TextAnalysis.Integer64

namespace TextAnalysis.Toml

/-! ## Kinds of values -/

namespace Value

/-- The text that a value is. -/
def text? : Value → Option Text
  | text t => some t
  | _ => none

/-- The 64-bit integer that a value is. -/
def integer? : Value → Option Int
  | integer n => if Integer64.holds n then some n else none
  | _ => none

/-- The truth value that a value is. -/
def boolean? : Value → Option Bool
  | boolean b => some b
  | _ => none

/-- The number that a value is. An integer of at most 64 bits, with or without a sign, is rounded. -/
def number? : Value → Option Binary64
  | float x => some x
  | integer n =>
    if Integer64.least ≤ n ∧ n ≤ Integer64.greatestUnsigned then
      some (.ofDecimal (n < 0) n.natAbs 0)
    else none
  | _ => none

/-- The items of an array. -/
def items? : Value → Option (List Value)
  | array _ items => some items
  | _ => none

/-- The texts of an array. -/
def texts? (v : Value) : Option (List Text) :=
  v.items?.bind (·.mapM text?)

/-- The name that a value gives: a text, or the only key of a table, with nothing under it. -/
def name? : Value → Option Text
  | text t => some t
  | table _ [(key, table _ [])] => some key
  | table _ [(key, array _ [])] => some key
  | _ => none

/-- The value that a name in a list stands for. -/
def named? {α : Type} (names : List (String × α)) (v : Value) : Option α :=
  v.name?.bind fun t => (names.find? (·.1.toList == t)).map (·.2)

/-- The fields of a record with the given names. A date has none of them. -/
def record? (names : List String) : Value → Option Entries
  | table _ entries => some entries
  | array _ items => some ((names.map String.toList).zip items)
  | dateTime => some []
  | _ => none

end Value

/-! ## Fields -/

variable {α : Type}

/-- The field with a name, if it is there; it must be of the expected kind. -/
def field? (name : String) (kind : Value → Option α) (fields : Entries) : Except Error (Option α) :=
  match lookup? name.toList fields with
  | none => .ok none
  | some v =>
    match kind v with
    | some a => .ok (some a)
    | none => .error (.wrongType name.toList)

/-- The field with a name, which must be there. -/
def field (name : String) (kind : Value → Option α) (fields : Entries) : Except Error α := do
  match ← field? name kind fields with
  | some a => return a
  | none => .error (.missingField name.toList)

/-- The record under a name, which is without fields if it is not there. -/
def subrecord (name : String) (names : List String) (fields : Entries) : Except Error Entries :=
  (field? name (Value.record? names) fields).map (·.getD [])

end TextAnalysis.Toml
