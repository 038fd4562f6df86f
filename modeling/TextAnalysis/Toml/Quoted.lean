/-
# TOML strings

Texts between quotes. Double quotes allow escapes, single quotes take everything as it is; three quotes
of either kind allow line breaks, of which one right after the opening quotes does not count.
-/
import TextAnalysis.Toml.Value

namespace TextAnalysis.Toml

/-- Whether a character may stand for itself on a line: no control character but the tab. -/
def isPlain (c : Char) : Bool :=
  c == '\t' || (c.toNat ≥ 0x20 && c.toNat ≠ 0x7F)

/-- The character that a letter after a backslash means. -/
def escape? : Char → Option Char
  | 'b' => some '\x08'
  | 't' => some '\t'
  | 'n' => some '\n'
  | 'f' => some '\x0c'
  | 'r' => some '\r'
  | 'e' => some '\x1b'
  | '"' => some '"'
  | '\\' => some '\\'
  | _ => none

/-- The number of hexadecimal digits that follow a letter after a backslash. -/
def codeLength? : Char → Option Nat
  | 'x' => some 2
  | 'u' => some 4
  | 'U' => some 8
  | _ => none

/-- Where the reader of a text in double quotes stands: at a character, after a line break that a
backslash made vanish together with the blanks that follow, after a backslash, in a code of which
digits are missing, or between a backslash and the line break that it makes vanish. -/
inductive QuotedMode where
  | plain
  | vanishing
  | escaped
  | code (missing value : Nat)
  | beforeBreak
  deriving DecidableEq, Repr

/-- Whether a line break starts here; a carriage return needs a line feed after it. -/
def startsBreak : Text → Bool
  | '\n' :: _ => true
  | '\r' :: '\n' :: _ => true
  | _ => false

/-- Puts a character before a text that has been read. -/
def precede (c : Char) (read : Except Error (Text × Text)) : Except Error (Text × Text) :=
  read.map fun (t, rest) => (c :: t, rest)

/-- The end of a text in three quotes: of up to five quotes in a row the last three close the text. -/
def closeLong (quote : Char) (text : Text) : Text × Text :=
  let count := min 5 (text.takeWhile (· == quote)).length
  (List.replicate (count - 3) quote, text.drop count)

/-- Whether three quotes start here. -/
def startsLong (quote : Char) (text : Text) : Bool :=
  text.take 3 == [quote, quote, quote]

/-- The text up to the closing double quotes, and the rest. -/
def readDouble (long : Bool) : QuotedMode → Text → Except Error (Text × Text)
  | _, [] => .error .unclosedText
  | .escaped, c :: rest =>
    match escape? c with
    | some e => precede e (readDouble long .plain rest)
    | none =>
      match codeLength? c with
      | some n => readDouble long (.code n 0) rest
      | none =>
        if long && (c == ' ' || c == '\t') then readDouble long .beforeBreak rest
        else if long && startsBreak (c :: rest) then readDouble long .vanishing rest
        else .error .badEscape
  | .code missing value, c :: rest =>
    match Text.hexDigit? c with
    | none => .error .badEscape
    | some d =>
      let value := 16 * value + d
      if missing ≤ 1 then
        if value.isValidChar then precede (Char.ofNat value) (readDouble long .plain rest)
        else .error .badEscape
      else readDouble long (.code (missing - 1) value) rest
  | .beforeBreak, c :: rest =>
    if c == ' ' || c == '\t' then readDouble long .beforeBreak rest
    else if startsBreak (c :: rest) then readDouble long .vanishing rest
    else .error .badEscape
  | mode, c :: rest =>
    if mode = .vanishing ∧ (c = ' ' ∨ c = '\t' ∨ startsBreak (c :: rest)) then
      readDouble long .vanishing rest
    else if c = '"' ∧ !long then .ok ([], rest)
    else if startsLong '"' (c :: rest) then .ok (closeLong '"' (c :: rest))
    else if c = '\\' then readDouble long .escaped rest
    else if isPlain c || (long && startsBreak (c :: rest)) then
      precede c (readDouble long .plain rest)
    else .error .badCharacter

/-- The text up to the closing single quotes, and the rest. -/
def readSingle (long : Bool) : Text → Except Error (Text × Text)
  | [] => .error .unclosedText
  | c :: rest =>
    if c = '\x27' ∧ !long then .ok ([], rest)
    else if startsLong '\x27' (c :: rest) then .ok (closeLong '\x27' (c :: rest))
    else if isPlain c || (long && startsBreak (c :: rest)) then precede c (readSingle long rest)
    else .error .badCharacter

/-- A text without a line break at its start. -/
def dropBreak : Text → Text
  | '\n' :: rest => rest
  | '\r' :: '\n' :: rest => rest
  | text => text

/-- Reads a text in quotes, of which the first character is a quote. -/
def readQuoted (text : Text) : Except Error (Text × Text) :=
  if startsLong '"' text then readDouble true .plain (dropBreak (text.drop 3))
  else if startsLong '\x27' text then readSingle true (dropBreak (text.drop 3))
  else if text.head? = some '"' then readDouble false .plain (text.drop 1)
  else readSingle false (text.drop 1)

end TextAnalysis.Toml
