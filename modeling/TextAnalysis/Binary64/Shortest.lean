/-
# The shortest decimal of a number

The fewest decimal digits that read back as the same binary64 number, the nearest such decimal if there
are several, written without an exponent.
-/
import TextAnalysis.Text
import TextAnalysis.Binary64

namespace TextAnalysis.Binary64

/-- The numbers of quarter units between which everything reads back as `units`. The interval is half as
wide below a power of two. -/
def roundingInterval (units : Nat) : Nat × Nat :=
  let step := Nat.pow 2 (excessBits units)
  let below := if excessBits units ≠ 0 ∧ units = Nat.pow 2 (Nat.log2 units) then step else 2 * step
  (4 * units - below, 4 * units + 2 * step)

/-- Whether a decimal of `num / den` quarter units reads back as `units`. The ends of the interval
belong to it if the significand is even. -/
def readsBack (units num den : Nat) : Bool :=
  let (low, high) := roundingInterval units
  if units / Nat.pow 2 (excessBits units) % 2 = 0 then low * den ≤ num && num ≤ high * den
  else low * den < num && num < high * den

/-- The decimal nearest to `units` among the multiples of `10 ^ exponent` that read back as `units`. -/
def onGrid? (units : Nat) (exponent : Int) : Option Nat :=
  let (num, den) : Nat × Nat :=
    match exponent with
    | .ofNat e => (units, unitsPerOne * Nat.pow 10 e)
    | .negSucc e => (units * Nat.pow 10 (e + 1), unitsPerOne)
  let scale : Nat := match exponent with
    | .ofNat _ => 1
    | .negSucc e => Nat.pow 10 (e + 1)
  let low := num / den
  let fits (d : Nat) : Bool := readsBack units (4 * d * den) scale
  let nearest := roundToEven num den
  if fits nearest then some nearest
  else if fits low then some low
  else if fits (low + 1) then some (low + 1)
  else none

/-- The position of the leading digit: `10 ^ (p - 1) ≤ units * 2 ^ -1074 < 10 ^ p`. -/
def leadingPosition (units : Nat) : Int :=
  ((Nat.toDigits 10 (units * Nat.pow 10 330 / unitsPerOne)).length : Int) - 330

/-- Tries grids of more and more digits, `count` of them, the first with `digits` digits. A decimal that
rounds up to the next power of ten has one digit. -/
def firstGrid (units : Nat) (position : Int) : Nat → Nat → Nat × Int
  | _, 0 => (0, 0)
  | digits, count + 1 =>
    let exponent := position - digits
    match onGrid? units exponent with
    | some d => if d = Nat.pow 10 digits then (1, position) else (d, exponent)
    | none => firstGrid units position (digits + 1) count

/-- The shortest decimal `d * 10 ^ e` of a positive number, which has at most seventeen digits. -/
def shortestDecimal (units : Nat) : Nat × Int :=
  firstGrid units (leadingPosition units) 1 17

/-- A decimal `d * 10 ^ e` written without an exponent. -/
def positional (d : Nat) (e : Int) : Text :=
  let digits := Text.ofNat d
  match e with
  | .ofNat e => digits ++ List.replicate e '0'
  | .negSucc e =>
    let places := e + 1
    if places < digits.length then
      digits.take (digits.length - places) ++ '.' :: digits.drop (digits.length - places)
    else ['0', '.'] ++ List.replicate (places - digits.length) '0' ++ digits

/-- The text of a number: the shortest decimal, whole numbers without a point. -/
def toText : Binary64 → Text
  | nan => ['N', 'a', 'N']
  | infinite negative => (if negative then ['-'] else []) ++ ['i', 'n', 'f']
  | finite negative units =>
    let magnitude :=
      if units = 0 then ['0']
      else
        let (d, e) := shortestDecimal units
        positional d e
    (if negative then ['-'] else []) ++ magnitude

end TextAnalysis.Binary64
