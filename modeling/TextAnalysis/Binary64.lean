/-
# Binary64 numbers

The numbers of the 64-bit binary format, held exactly: a finite number is a signed count of the least
positive one, `2 ^ -1074`. Order and equality are those of integers, and rounding is to the nearest
number with 53 significant bits, ties to the even one.
-/

namespace TextAnalysis

/-- A binary64 number. A finite one is `units * 2 ^ -1074`, with a sign that also zero has. -/
inductive Binary64 where
  | nan
  | infinite (negative : Bool)
  | finite (negative : Bool) (units : Nat)
  deriving DecidableEq, Repr

namespace Binary64

/-- Units in the number one. -/
def unitsPerOne : Nat :=
  Nat.pow 2 1074

/-- The number of units at which the finite numbers end. -/
def unitsLimit : Nat :=
  Nat.pow 2 2098

/-- Zero. -/
def zero : Binary64 :=
  finite false 0

/-- One. -/
def one : Binary64 :=
  finite false unitsPerOne

/-- The greatest finite number. -/
def greatest : Binary64 :=
  finite false ((Nat.pow 2 53 - 1) * Nat.pow 2 2045)

/-! ## Rounding -/

/-- The integer nearest to `num / den`, the even one of two. -/
def roundToEven (num den : Nat) : Nat :=
  let q := num / den
  let r := num % den
  if 2 * r < den then q else if den < 2 * r then q + 1 else q + q % 2

/-- How many bits of a whole number of units lie below the 53 that a significand holds. -/
def excessBits (units : Nat) : Nat :=
  Nat.log2 units - 52

/-- The representable number of units nearest to `num / den` units. -/
def roundUnits (num den : Nat) : Nat :=
  let step := Nat.pow 2 (excessBits (num / den))
  roundToEven num (den * step) * step

/-- The number nearest to `num / den` units, infinite beyond the greatest finite number. -/
def ofUnitRatio (negative : Bool) (num den : Nat) : Binary64 :=
  let units := roundUnits num den
  if units < unitsLimit then finite negative units else infinite negative

/-- The number nearest to a quotient of natural numbers, of which the second is not zero. -/
def ofRatio (num den : Nat) : Binary64 :=
  ofUnitRatio false (num * unitsPerOne) den

/-- The number nearest to a natural number. -/
def ofNat (n : Nat) : Binary64 :=
  ofRatio n 1

/-- The number nearest to `digits * 10 ^ exponent`. Exponents far beyond the finite numbers are not
computed. -/
def ofDecimal (negative : Bool) (digits : Nat) (exponent : Int) : Binary64 :=
  if digits = 0 then finite negative 0
  else
    let magnitude := exponent + (Nat.toDigits 10 digits).length
    if 400 < magnitude then infinite negative
    else if magnitude < -400 then finite negative 0
    else
      match exponent with
      | .ofNat e => ofUnitRatio negative (digits * Nat.pow 10 e * unitsPerOne) 1
      | .negSucc e => ofUnitRatio negative (digits * unitsPerOne) (Nat.pow 10 (e + 1))

/-! ## Order -/

/-- The signed number of units. -/
def signedUnits (negative : Bool) (units : Nat) : Int :=
  if negative then -(units : Int) else units

/-- The order of numbers; what is not a number stands in it nowhere. -/
def le : Binary64 → Binary64 → Bool
  | nan, _ => false
  | _, nan => false
  | infinite true, _ => true
  | _, infinite false => true
  | finite s m, finite t n => signedUnits s m ≤ signedUnits t n
  | _, _ => false

/-- The strict order of numbers. -/
def lt (x y : Binary64) : Bool :=
  le x y && !le y x

/-- Equality of numbers: the two zeros are equal, and what is not a number equals nothing. -/
def eq (x y : Binary64) : Bool :=
  le x y && le y x

/-- Whether `x` lies between `low` and `high`, both included. -/
def isBetween (x low high : Binary64) : Bool :=
  le low x && le x high

/-! ## Arithmetic -/

/-- One minus a number, rounded. -/
def oneMinus : Binary64 → Binary64
  | nan => nan
  | infinite negative => infinite (!negative)
  | finite negative units =>
    let difference := (unitsPerOne : Int) - signedUnits negative units
    ofUnitRatio (difference < 0) difference.natAbs 1

/-! ## Encoding -/

/-- The 64 bits of a number: sign, eleven bits of exponent, 52 bits of fraction. -/
def toBits : Binary64 → Nat
  | nan => 0x7FF8000000000000
  | infinite negative => (if negative then Nat.pow 2 63 else 0) + 0x7FF0000000000000
  | finite negative units =>
    let shift := excessBits units
    let magnitude :=
      if units < Nat.pow 2 52 then units
      else (shift + 1) * Nat.pow 2 52 + (units / Nat.pow 2 shift - Nat.pow 2 52)
    (if negative then Nat.pow 2 63 else 0) + magnitude

end Binary64

end TextAnalysis
