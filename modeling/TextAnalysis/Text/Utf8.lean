/-
# UTF-8

Ranges of code points as sequences of byte ranges in UTF-8: a code point is in the range exactly if its
bytes are in the ranges of one of the sequences. The sequences are in ascending order. Surrogates have no
bytes.
-/
import TextAnalysis.Text

namespace TextAnalysis.Utf8

/-- A sequence of byte ranges, each with its first and its last byte. -/
abbrev ByteRanges := List (Nat × Nat)

/-- The numbers from `first` to `last` in a leading byte, which begins at `mark`, and `k` continuation bytes
of six bits each. Numbers that share all but their last bytes are put together. -/
def blocks (mark : Nat) : Nat → Nat → Nat → List ByteRanges
  | 0, first, last => [[(mark + first, mark + last)]]
  | k + 1, first, last =>
    let unit := Nat.pow 64 (k + 1)
    let lead (n : Nat) (rest : ByteRanges) : ByteRanges := (mark + n, mark + n) :: rest
    let a := first / unit
    let b := last / unit
    if a = b then (blocks 0x80 k (first % unit) (last % unit)).map (lead a)
    else
      let low :=
        if first % unit = 0 then [] else (blocks 0x80 k (first % unit) (unit - 1)).map (lead a)
      let high :=
        if last % unit = unit - 1 then [] else (blocks 0x80 k 0 (last % unit)).map (lead b)
      let start := if first % unit = 0 then a else a + 1
      let stop := if last % unit = unit - 1 then b + 1 else b
      let middle :=
        if start < stop then
          [(mark + start, mark + (stop - 1)) :: List.replicate (k + 1) (0x80, 0xBF)]
        else []
      low ++ middle ++ high

/-- The code points with the same number of bytes: the first and the last one, the start of the leading
byte, and the number of continuation bytes. Surrogates are left out. -/
def lengths : List (Nat × Nat × Nat × Nat) :=
  [(0, 0x7F, 0, 0), (0x80, 0x7FF, 0xC0, 1), (0x800, 0xD7FF, 0xE0, 2), (0xE000, 0xFFFF, 0xE0, 2),
    (0x10000, 0x10FFFF, 0xF0, 3)]

/-- The byte sequences of the code points from `first` to `last`. -/
def sequences (first last : Nat) : List ByteRanges :=
  lengths.flatMap fun (least, most, mark, k) =>
    if max first least ≤ min last most then blocks mark k (max first least) (min last most) else []

/-- The bytes of a character. -/
def bytes (c : Char) : List Nat :=
  (sequences c.toNat c.toNat).flatMap (·.map (·.1))

end TextAnalysis.Utf8
