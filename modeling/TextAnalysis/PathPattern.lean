/-
# Path patterns

Patterns for paths of files. In a name, a question mark stands for any character, an asterisk for any
text, and brackets for one of several characters; two asterisks alone stand for any directories.
-/
import TextAnalysis.Text

namespace TextAnalysis

/-! ## Faults -/

/-- What is wrong with a pattern. -/
inductive PathPatternFault where
  | tooManyWildcards
  | misplacedRecursion
  | badRange
  deriving DecidableEq, Repr

/-- A fault with the place where it was noticed. -/
structure PathPatternError where
  position : Nat
  fault : PathPatternFault
  deriving DecidableEq, Repr

/-- The wording of a fault. -/
def PathPatternFault.message : PathPatternFault → Text
  | tooManyWildcards => "wildcards are either regular \x60*\x60 or recursive \x60**\x60".toList
  | misplacedRecursion => "recursive wildcards must form a single path component".toList
  | badRange => "invalid range pattern".toList

/-- The wording of an error. -/
def PathPatternError.message (e : PathPatternError) : Text :=
  "Pattern syntax error near position ".toList ++ Text.ofNat e.position ++ ": ".toList ++
    e.fault.message

/-! ## Names -/

/-- A part of a pattern for names. -/
inductive NamePart where
  | char (c : Char)
  | anyChar
  | anyText
  | anyDirectories
  | oneOf (negated : Bool) (ranges : List (Char × Char))
  deriving DecidableEq, Repr

/-- A pattern for names. -/
abbrev NamePattern :=
  List NamePart

namespace NamePart

/-- Whether a part that stands for one character stands for this one. -/
def accepts (c : Char) : NamePart → Bool
  | char d => c == d
  | anyChar => true
  | oneOf negated ranges => negated != ranges.any fun r => r.1 ≤ c && c ≤ r.2
  | _ => false

/-- Whether a part stands for texts of any length. -/
def isStretch : NamePart → Bool
  | anyText => true
  | anyDirectories => true
  | _ => false

end NamePart

namespace NamePattern

/-- Whether a name is one that a pattern stands for. -/
def isMatch : NamePattern → Text → Bool
  | [], name => name.isEmpty
  | part :: parts, [] => part.isStretch && isMatch parts []
  | part :: parts, c :: name =>
    if part.isStretch then isMatch parts (c :: name) || isMatch (part :: parts) name
    else part.accepts c && isMatch parts name
  termination_by pattern name => pattern.length + name.length

/-- Whether a pattern stands for any directories. -/
def isRecursive (p : NamePattern) : Bool :=
  p.contains .anyDirectories

/-- The only name that a pattern stands for, if it has no wildcards. -/
def literal? (p : NamePattern) : Option Text :=
  p.mapM fun part =>
    match part with
    | .char c => some c
    | _ => none

/-! ## Notation -/

/-- The ranges that the text between brackets lists. -/
def rangesOf : Text → List (Char × Char)
  | a :: '-' :: b :: rest => (a, b) :: rangesOf rest
  | a :: rest => (a, a) :: rangesOf rest
  | [] => []

/-- The part that starts with an opening bracket, given the text after the bracket: a closing bracket
right at the start is one of the listed characters. The number is that of the characters read. -/
def rangePart? (text : Text) : Option (NamePart × Nat) :=
  let (negated, listed) :=
    match text with
    | '!' :: rest => (true, rest)
    | rest => (false, rest)
  match listed with
  | [] => none
  | c :: more =>
    let inside := c :: more.takeWhile (· != ']')
    if more.length < inside.length then none
    else some (.oneOf negated (rangesOf inside), (if negated then 2 else 1) + inside.length + 1)

/-- Reads the rest of a pattern, of which the first character has a position and another one before
it. -/
def readParts : Nat → Nat → Option Char → Text → Except PathPatternError NamePattern
  | 0, _, _, _ => .ok []
  | _ + 1, _, _, [] => .ok []
  | steps + 1, position, before, c :: rest =>
    let go (part : NamePart) (length : Nat) : Except PathPatternError NamePattern :=
      (readParts steps (position + length) ((c :: rest)[length - 1]?) ((c :: rest).drop length)).map
        (part :: ·)
    if c = '?' then go .anyChar 1
    else if c = '[' then
      match rangePart? rest with
      | some (part, length) => go part length
      | none => .error ⟨position, .badRange⟩
    else if c = '*' then
      let stars := ((c :: rest).takeWhile (· == '*')).length
      if 2 < stars then .error ⟨position + 2, .tooManyWildcards⟩
      else if stars = 1 then go .anyText 1
      else if position ≠ 0 ∧ before ≠ some '/' then .error ⟨position - 1, .misplacedRecursion⟩
      else
        match (c :: rest).drop 2 with
        | [] => go .anyDirectories 2
        | '/' :: _ => go .anyDirectories 3
        | _ => .error ⟨position + 2, .misplacedRecursion⟩
    else go (.char c) 1

/-- The pattern that a text writes. -/
def read (text : Text) : Except PathPatternError NamePattern :=
  readParts text.length 0 none text

end NamePattern

/-! ## Paths -/

/-- A pattern for paths: where it starts, a pattern for each name on the way, and whether only
directories count. -/
structure PathPattern where
  isAbsolute : Bool
  names : List NamePattern
  onlyDirectories : Bool
  deriving Repr

namespace PathPattern

/-- The pattern that a text writes. The text as a whole must be in order, and each name on its own. -/
def read (text : Text) : Except PathPatternError PathPattern := do
  let _ ← NamePattern.read text
  let isAbsolute := text.head? == some '/'
  let pieces := Text.splitAt '/' (if isAbsolute then text.drop 1 else text)
  let pieces := if pieces.getLast? = some [] then pieces.dropLast else pieces
  let names ← pieces.mapM NamePattern.read
  return { isAbsolute, names := if names.isEmpty then [[]] else names
           onlyDirectories := text.getLast? == some '/' }

end PathPattern

end TextAnalysis
