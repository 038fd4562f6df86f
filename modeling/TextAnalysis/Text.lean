/-
# Texts

A text is the list of its characters, so lengths and positions count characters. This module holds the
operations on whole texts that need no character classes: search, replacement, lines and decimal
numerals.
-/

namespace TextAnalysis

/-- A text is the list of its characters. -/
abbrev Text := List Char

namespace Text

/-! ## Search and replacement -/

/-- The text after an initial `part`, if it starts with `part`. -/
def dropStart? : Text → Text → Option Text
  | text, [] => some text
  | [], _ :: _ => none
  | c :: text, d :: part => if c = d then dropStart? text part else none

/-- Whether `text` starts with `part`. -/
def startsWith (text part : Text) : Bool :=
  (dropStart? text part).isSome

/-- Whether `text` ends with `part`. -/
def endsWith (text part : Text) : Bool :=
  startsWith text.reverse part.reverse

/-- Whether `part` occurs somewhere in the text. -/
def occurs (part : Text) : Text → Bool
  | [] => part.isEmpty
  | c :: text => startsWith (c :: text) part || occurs part text

/-- The text before the first occurrence of `part`, the whole text if there is none. -/
def before (part : Text) : Text → Text
  | [] => []
  | c :: text => if startsWith (c :: text) part then [] else c :: before part text

/-- Replaces the occurrences of a non-empty `part` from left to right; `skip` characters of an
occurrence are still to be passed over. -/
def replaceFrom (part replacement : Text) (skip : Nat) : Text → Text
  | [] => []
  | c :: text =>
    match skip with
    | skip + 1 => replaceFrom part replacement skip text
    | 0 =>
      if startsWith (c :: text) part then
        replacement ++ replaceFrom part replacement (part.length - 1) text
      else c :: replaceFrom part replacement 0 text

/-- Replaces every occurrence of `part`, from left to right without overlaps. The empty part occurs
before every character and at the end. -/
def replace (text part replacement : Text) : Text :=
  if part.isEmpty then replacement ++ text.flatMap (fun c => c :: replacement)
  else replaceFrom part replacement 0 text

/-! ## Lines -/

/-- Splits at every occurrence of one character. -/
def splitAt (separator : Char) : Text → List Text
  | [] => [[]]
  | c :: text =>
    match splitAt separator text with
    | [] => []
    | piece :: pieces => if c = separator then [] :: piece :: pieces else (c :: piece) :: pieces

/-- A line without the carriage return before its line feed. -/
def dropReturn (line : Text) : Text :=
  if line.getLast? = some '\r' then line.dropLast else line

/-- The lines of a text: a line ends with a line feed, before which a carriage return is dropped; what
follows the last line feed is a line if it is not empty. -/
def lines (text : Text) : List Text :=
  let pieces := splitAt '\n' text
  pieces.dropLast.map dropReturn ++ (pieces.getLast?.toList.filter (! ·.isEmpty))

/-! ## Decimal numerals -/

/-- A natural number in decimal. -/
def ofNat (n : Nat) : Text :=
  Nat.toDigits 10 n

/-- An integer in decimal, with a minus sign if it is negative. -/
def ofInt : Int → Text
  | .ofNat n => ofNat n
  | .negSucc n => '-' :: ofNat (n + 1)

/-- The value of a decimal digit. -/
def digit? (c : Char) : Option Nat :=
  if c.isDigit then some (c.toNat - '0'.toNat) else none

/-- The value of a hexadecimal digit. -/
def hexDigit? (c : Char) : Option Nat :=
  if c.isDigit then some (c.toNat - '0'.toNat)
  else if 'a' ≤ c ∧ c ≤ 'f' then some (c.toNat - 'a'.toNat + 10)
  else if 'A' ≤ c ∧ c ≤ 'F' then some (c.toNat - 'A'.toNat + 10)
  else none

/-- The natural number that a non-empty run of decimal digits writes. -/
def toNat? (digits : Text) : Option Nat :=
  if digits.isEmpty then none
  else digits.foldlM (fun n c => (digit? c).map (10 * n + ·)) 0

/-- The text in lower case as far as it is ASCII. -/
def asciiLowercase (text : Text) : Text :=
  text.map Char.toLower

/-- Equality of texts up to the case of ASCII letters. -/
def eqIgnoringAsciiCase (a b : Text) : Bool :=
  asciiLowercase a == asciiLowercase b

/-- Whether `a` comes before `b` in the order of code points, a proper beginning first. -/
def precedes : Text → Text → Bool
  | _, [] => false
  | [], _ :: _ => true
  | a :: as, b :: bs => a < b || (a == b && precedes as bs)

end Text

end TextAnalysis
