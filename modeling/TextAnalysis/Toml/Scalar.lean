/-
# TOML scalars

Integers, floats, booleans, dates and times, each a word without quotes. Digits may be grouped by
underscores that stand between two digits.
-/
import TextAnalysis.Toml.Value
import TextAnalysis.Binary64.Literal

namespace TextAnalysis.Toml

/-! ## Digits -/

/-- The digits of a text without the underscores between them. -/
def ungrouped? (isDigit : Char → Bool) (text : Text) : Option Text :=
  let groups := Text.splitAt '_' text
  if groups.all fun g => !g.isEmpty && g.all isDigit then some groups.flatten else none

/-- The value of a digit in a base up to sixteen. -/
def digitOf? (base : Nat) (c : Char) : Option Nat :=
  (Text.hexDigit? c).filter (· < base)

/-- The number that digits in a base write. -/
def natural? (base : Nat) (text : Text) : Option Nat :=
  (ungrouped? (fun c => (digitOf? base c).isSome) text).bind fun digits =>
    digits.foldlM (fun n c => (digitOf? base c).map (base * n + ·)) 0

/-! ## Numbers -/

/-- Decimal digits without a superfluous zero in front. -/
def decimal? (text : Text) : Option Text :=
  match ungrouped? Char.isDigit text with
  | some ('0' :: _ :: _) => none
  | digits => digits

/-- The integer that a word writes: in decimal with an optional sign, or in base sixteen, eight or two
after a mark. -/
def writtenInteger? : Text → Option Int
  | '0' :: 'x' :: digits => (natural? 16 digits).map Int.ofNat
  | '0' :: 'o' :: digits => (natural? 8 digits).map Int.ofNat
  | '0' :: 'b' :: digits => (natural? 2 digits).map Int.ofNat
  | word =>
    let (negative, digits) := Binary64.takeSign word
    match (decimal? digits).bind Text.toNat? with
    | some n => some (if negative then -(n : Int) else n)
    | none => none

/-- The integer that a word writes, if 128 bits hold it. -/
def integer? (word : Text) : Option Int :=
  (writtenInteger? word).filter fun n => -(Nat.pow 2 127 : Int) ≤ n && n < Nat.pow 2 128

/-- The exponent of a float: nothing, or the letter e and digits with an optional sign. The sign and the
digits are returned. -/
def exponentDigits? : Text → Option Text
  | [] => some []
  | c :: rest =>
    if c = 'e' ∨ c = 'E' then
      let (negative, digits) := Binary64.takeSign rest
      (ungrouped? Char.isDigit digits).map fun digits =>
        (if negative then ['e', '-'] else ['e']) ++ digits
    else none

/-- The digits after the point, if there is one, and the rest. -/
def fractionDigits? : Text → Option (Text × Text)
  | '.' :: rest =>
    let digits := rest.takeWhile fun c => c.isDigit || c == '_'
    (ungrouped? Char.isDigit digits).map fun found => ('.' :: found, rest.drop digits.length)
  | rest => some ([], rest)

/-- The finite number that a word writes: digits, a point with digits after it, an exponent, of which the
point or the exponent may be missing. -/
def finite? (negative : Bool) (word : Text) : Option Binary64 := do
  let whole ← decimal? (word.takeWhile fun c => c.isDigit || c == '_')
  let (fraction, rest) ← fractionDigits? (word.dropWhile fun c => c.isDigit || c == '_')
  let exponent ← exponentDigits? rest
  if fraction.isEmpty && exponent.isEmpty then none
  match ← Binary64.ofUnsigned? negative (whole ++ fraction ++ exponent) with
  | .finite s units => some (.finite s units)
  | _ => none

/-- The float that a word writes; the infinities and what is not a number have names. -/
def float? (word : Text) : Option Binary64 :=
  let (negative, rest) := Binary64.takeSign word
  if rest = "inf".toList then some (.infinite negative)
  else if rest = "nan".toList then some .nan
  else finite? negative rest

/-! ## Dates and times -/

/-- A number of exactly `count` digits within bounds, and the rest. -/
def twoDigits? (count low high : Nat) (text : Text) : Option (Nat × Text) := do
  let digits := text.take count
  if digits.length ≠ count then none
  let n ← Text.toNat? digits
  if low ≤ n ∧ n ≤ high then some (n, text.drop count) else none

/-- The rest after a character. -/
def after? (c : Char) : Text → Option Text
  | d :: rest => if c = d then some rest else none
  | [] => none

/-- The number of days of a month. -/
def daysIn (year month : Nat) : Nat :=
  if month = 2 then
    if year % 4 = 0 ∧ (year % 100 ≠ 0 ∨ year % 400 = 0) then 29 else 28
  else if month ∈ [4, 6, 9, 11] then 30
  else 31

/-- The rest after a date. -/
def afterDate? (text : Text) : Option Text := do
  let (year, rest) ← twoDigits? 4 0 9999 text
  let (month, rest) ← twoDigits? 2 1 12 (← after? '-' rest)
  let (_, rest) ← twoDigits? 2 1 (daysIn year month) (← after? '-' rest)
  return rest

/-- The rest after a time, of which the seconds and their fraction may be missing. -/
def afterTime? (text : Text) : Option Text := do
  let (_, rest) ← twoDigits? 2 0 23 text
  let (_, rest) ← twoDigits? 2 0 59 (← after? ':' rest)
  match rest with
  | ':' :: rest =>
    let (_, rest) ← twoDigits? 2 0 60 rest
    match rest with
    | '.' :: rest =>
      if (rest.head?.map Char.isDigit).getD false then some (rest.dropWhile Char.isDigit) else none
    | rest => some rest
  | rest => some rest

/-- Whether a text is the distance from universal time, or empty. -/
def isOffset : Text → Bool
  | [] => true
  | ['Z'] => true
  | ['z'] => true
  | c :: rest =>
    (c == '+' || c == '-') &&
      ((do
        let (_, rest) ← twoDigits? 2 0 23 rest
        let (_, rest) ← twoDigits? 2 0 59 (← after? ':' rest)
        if rest.isEmpty then some () else none : Option Unit)).isSome

/-- Whether a word writes a date, a time, or both. -/
def isDateTime (word : Text) : Bool :=
  match afterDate? word with
  | some [] => true
  | some (c :: rest) =>
    (c == 'T' || c == 't' || c == ' ') && ((afterTime? rest).map isOffset).getD false
  | none => afterTime? word == some []

/-! ## Words -/

/-- The value that a word without quotes writes. -/
def scalar? (word : Text) : Option Value :=
  if word = "true".toList then some (.boolean true)
  else if word = "false".toList then some (.boolean false)
  else
    match integer? word with
    | some n => some (.integer n)
    | none =>
      match float? word with
      | some x => some (.float x)
      | none => if isDateTime word then some .dateTime else none

/-- Whether a character ends a word without quotes. -/
def endsWord (c : Char) : Bool :=
  [' ', '\t', '\n', '\r', ',', ']', '\x7d', '#'].contains c

/-- A word without quotes and the rest; a date and a time are one word if a single space is between
them. -/
def takeWord (text : Text) : Text × Text :=
  let word := text.takeWhile (!endsWord ·)
  let rest := text.drop word.length
  match rest with
  | ' ' :: d :: more =>
    if d.isDigit && afterDate? word == some [] then
      let time := (d :: more).takeWhile (!endsWord ·)
      (word ++ ' ' :: time, (d :: more).drop time.length)
    else (word, rest)
  | rest => (word, rest)

/-- Reads a value without quotes. -/
def readScalar (text : Text) : Except Error (Value × Text) :=
  let (word, rest) := takeWord text
  match scalar? word with
  | some v => .ok (v, rest)
  | none => .error .badScalar

end TextAnalysis.Toml
