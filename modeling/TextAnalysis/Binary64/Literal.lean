/-
# Numbers in decimal notation

Reading a binary64 number from digits with an optional sign, point and exponent.
-/
import TextAnalysis.Text
import TextAnalysis.Binary64

namespace TextAnalysis.Binary64

/-- A sign at the front of a text, and the rest. -/
def takeSign : Text → Bool × Text
  | '-' :: rest => (true, rest)
  | '+' :: rest => (false, rest)
  | rest => (false, rest)

/-- The exponent after the digits: nothing, or the letter e and a signed run of digits. -/
def exponent? : Text → Option Int
  | [] => some 0
  | c :: rest =>
    if c = 'e' ∨ c = 'E' then
      let (negative, digits) := takeSign rest
      (Text.toNat? digits).map fun n => if negative then -(n : Int) else n
    else none

/-- The number that an unsigned decimal writes: digits with an optional point, at least one digit in
all, and an optional exponent. -/
def ofUnsigned? (negative : Bool) (text : Text) : Option Binary64 :=
  let whole := text.takeWhile Char.isDigit
  let rest := text.dropWhile Char.isDigit
  let (places, rest) :=
    match rest with
    | '.' :: rest => (rest.takeWhile Char.isDigit, rest.dropWhile Char.isDigit)
    | rest => ([], rest)
  match Text.toNat? (whole ++ places), exponent? rest with
  | some digits, some e => some (ofDecimal negative digits (e - places.length))
  | _, _ => none

/-- The number that a text writes: an optional sign, then a decimal, an infinity or what is not a
number, the last two by name in any case. -/
def ofText? (text : Text) : Option Binary64 :=
  let (negative, rest) := takeSign text
  let name := Text.asciiLowercase rest
  if name = "inf".toList ∨ name = "infinity".toList then some (infinite negative)
  else if name = "nan".toList then some nan
  else ofUnsigned? negative rest

end TextAnalysis.Binary64
