/-
# Pattern notation

Reading a pattern from its written form: literals and escapes, the dot, bracket classes with set
operations, groups with flags, alternation, greedy and lazy repetition, anchors and word boundaries.
Look-around and back references are refused.

The reader keeps the groups that are still open on a stack. It walks the text once; a number of steps
bounds the walk, one for each character. It counts how deeply expressions are nested: a group, a
repetition, a sequence, a choice and a class are each one level above what they hold.

A flag keeps sets and word boundaries to ASCII. What would match only a part of a character then is refused:
the dot, complements, and other characters in classes.
-/
import TextAnalysis.Pattern.Combined
import TextAnalysis.Pattern.Footprint

namespace TextAnalysis

/-- Why a text is not the written form of a pattern. -/
inductive PatternError where
  | unclosedGroup | unopenedGroup | badGroupName | badFlag | lookAround
  | nothingToRepeat | badCount
  | badEscape | unknownProperty
  | partOfCharacter | onlyAscii
  | unclosedClass | badClassItem | badRange
  | outOfSteps
  | tooDeep
  | tooLarge
  deriving DecidableEq, Repr

namespace PatternError

/-- The reason in words. -/
def reason : PatternError → Text
  | unclosedGroup => "unclosed group".toList
  | unopenedGroup => "unopened group".toList
  | badGroupName => "invalid capture group name".toList
  | badFlag => "invalid flags".toList
  | lookAround => "look-around is not supported".toList
  | nothingToRepeat => "repetition operator missing expression".toList
  | badCount => "invalid repetition count".toList
  | badEscape => "unrecognized escape sequence".toList
  | unknownProperty => "property not found".toList
  | partOfCharacter => "pattern can match invalid UTF-8".toList
  | onlyAscii => "Unicode not allowed here".toList
  | unclosedClass => "unclosed character class".toList
  | badClassItem => "invalid item in a character class".toList
  | badRange => "invalid character class range".toList
  | outOfSteps => "pattern too long".toList
  | tooDeep => "exceeds the nesting limit".toList
  | tooLarge => "Compiled regex exceeds size limit of 10485760 bytes.".toList

/-- The wording of an error. All but an excess of size are errors of notation and say so. -/
def message : PatternError → Text
  | tooLarge => reason tooLarge
  | e => "regex parse error: ".toList ++ e.reason

end PatternError

namespace Pattern

/-- The flags in force at a place of a pattern. -/
structure Flags where
  ignoreCase : Bool := false
  multiLine : Bool := false
  dotAll : Bool := false
  swapGreed : Bool := false
  anyBreak : Bool := false
  verbose : Bool := false
  asciiOnly : Bool := false
  deriving Repr

/-- Switches the flag with a given letter. -/
def Flags.switch? (f : Flags) (letter : Char) (on : Bool) : Option Flags :=
  match letter with
  | 'i' => some { f with ignoreCase := on }
  | 'm' => some { f with multiLine := on }
  | 's' => some { f with dotAll := on }
  | 'U' => some { f with swapGreed := on }
  | 'u' => some { f with asciiOnly := !on }
  | 'R' => some { f with anyBreak := on }
  | 'x' => some { f with verbose := on }
  | _ => none

/-- The depth of something that consists of parts of given depths. A single part stands for itself. -/
def depthOf : List Nat → Nat
  | [] => 0
  | [d] => d
  | ds => ds.foldr max 0 + 1

/-- The largest depth of a pattern that is accepted. -/
def depthLimit : Nat :=
  250

/-- What reading a part of a pattern yields, and the rest of the text. -/
abbrev Read (α : Type) := Except PatternError (α × Text)

/-! ## Blanks and numbers -/

/-- Skips blanks and comments; a comment goes from a number sign to the end of its line. -/
def skipComments (inComment : Bool) : Text → Text
  | [] => []
  | c :: rest =>
    if inComment then skipComments (c != '\n') rest
    else if Text.isBlank c then skipComments false rest
    else if c = '#' then skipComments true rest
    else c :: rest

/-- Skips blanks and comments if the pattern is written verbosely. -/
def skipBlanks (f : Flags) (text : Text) : Text :=
  if f.verbose then skipComments false text else text

/-- Whether a text starts with a sign, and the text after it. -/
def takeSign (sign : Char) : Text → Bool × Text
  | [] => (false, [])
  | c :: rest => if c = sign then (true, rest) else (false, c :: rest)

/-- The text up to a sign, which has to come. -/
def takeUntil (sign : Char) (e : PatternError) : Text → Read Text
  | [] => .error e
  | c :: rest =>
    if c = sign then .ok ([], rest)
    else (takeUntil sign e rest).map fun (taken, rest) => (c :: taken, rest)

/-- Characters of a kind, and the text after them. In verbose patterns blanks and comments between them and behind
them are left out. -/
def takeSpacedWhile (f : Flags) (p : Char → Bool) (inComment : Bool) : Text → Text × Text
  | [] => ([], [])
  | c :: rest =>
    if inComment then takeSpacedWhile f p (c != '\n') rest
    else if f.verbose && Text.isBlank c then takeSpacedWhile f p false rest
    else if f.verbose && c == '#' then takeSpacedWhile f p true rest
    else if p c then
      let (taken, rest) := takeSpacedWhile f p false rest
      (c :: taken, rest)
    else ([], c :: rest)

/-- A decimal number with blanks around it. -/
def readNumber (f : Flags) (text : Text) : Read Nat :=
  let (digits, rest) := takeSpacedWhile f Char.isDigit false (text.dropWhile Text.isBlank)
  match Text.toNat? digits with
  | some n => if n < Nat.pow 2 32 then .ok (n, rest.dropWhile Text.isBlank) else .error .badCount
  | none => .error .badCount

/-! ## Escapes -/

/-- What an escape stands for: a literal character, a set, or an assertion. -/
inductive Escaped where
  | literal (c : Char)
  | set (s : CharSet)
  | holds (a : Assertion)

/-- The character with a hexadecimal code point. -/
def charOfHex? (digits : Text) : Option Char := do
  if digits.isEmpty then none
  let n ← digits.foldlM (fun n c => (Text.hexDigit? c).map (16 * n + ·)) 0
  if h : n.isValidChar then some (Char.ofNatAux n h) else none

/-- A fixed number of characters, with blanks between them skipped in verbose patterns. -/
def takeSpaced (f : Flags) : Nat → Text → Read Text
  | 0, text => .ok ([], text)
  | n + 1, text =>
    match skipBlanks f text with
    | [] => .error .badEscape
    | c :: rest => (takeSpaced f n rest).map fun (taken, rest) => (c :: taken, rest)

/-- Something up to a closing brace, which has to come next. -/
def closeBrace {α : Type} (e : PatternError) (a : α) : Text → Read α
  | '\x7d' :: rest => .ok (a, rest)
  | _ => .error e

/-- What stands between braces, after the opening brace. -/
def readBraced (f : Flags) (text : Text) : Read Text :=
  let (inner, rest) := takeSpacedWhile f (· != '\x7d') false text
  closeBrace .badEscape inner rest

/-- The literal with a code point. A single byte stands for a part of a character if it is not ASCII and only ASCII
counts. -/
def literalOfHex (f : Flags) (isByte : Bool) (digits : Text) : Except PatternError Escaped :=
  match charOfHex? digits with
  | some c => if f.asciiOnly && isByte && !CharSet.ascii.contains c then .error .partOfCharacter else .ok (.literal c)
  | none => .error .badEscape

/-- A literal by its code point, whose digits stand in braces or are as many as are asked for; two digits alone are
a byte. -/
def readDigits (f : Flags) (count : Nat) : Text → Except PatternError (Escaped × Text)
  | '\x7b' :: rest => do
    let (digits, rest) ← readBraced f rest
    (literalOfHex f false digits).map fun e => (e, rest)
  | text => do
    let (digits, rest) ← takeSpaced f count text
    (literalOfHex f (count == 2) digits).map fun e => (e, rest)

/-- A literal by its code point, after the letter that says how many digits there are. -/
def readHex (f : Flags) (count : Nat) (text : Text) : Read Escaped :=
  readDigits f count (skipBlanks f text)

/-- The sets behind the letters d, s and w. -/
def letterSet [CharSet.Tables] (f : Flags) (letter : Char) : CharSet :=
  if f.asciiOnly then
    (CharSet.asciiClass?
      (if letter = 'd' then "digit".toList else if letter = 's' then "space".toList
        else "word".toList)).getD .none
  else if letter = 'd' then CharSet.Tables.decimal
  else if letter = 's' then CharSet.Tables.blank
  else CharSet.Tables.word

/-- The complements behind the letters D, S and W. -/
def readNegatedLetter [CharSet.Tables] (f : Flags) (letter : Char) (text : Text) : Read Escaped :=
  if f.asciiOnly then .error .partOfCharacter else .ok (.set (letterSet f letter).complement, text)

/-- A set with its case variants if case is ignored. -/
def folded [CharSet.Tables] (f : Flags) (s : CharSet) : CharSet :=
  if !f.ignoreCase then s else if f.asciiOnly then s.asciiClosed else CharSet.Tables.caseClosed s

/-- A set or its complement. -/
def negatedIf (negated : Bool) (s : CharSet) : CharSet :=
  if negated then s.complement else s

/-- What a class with a given content stands for. -/
def closedSet [CharSet.Tables] (f : Flags) (negated : Bool) (s : CharSet) : Except PatternError CharSet :=
  if f.asciiOnly && negated then .error .partOfCharacter else .ok (negatedIf negated (folded f s))

/-- The name of a property, in braces or a single letter. -/
def readPropertyName (f : Flags) : Text → Read Text
  | [] => .error .badEscape
  | c :: rest =>
    if c = '\x7b' then readBraced f rest
    else if c = '\\' then .error .badEscape
    else .ok ([c], rest)

/-- A property, after the letter p. -/
def readProperty [CharSet.Tables] (f : Flags) (negated : Bool) (text : Text) :
    Except PatternError (Escaped × Text) := do
  let (name, rest) ← readPropertyName f (skipBlanks f text)
  if f.asciiOnly then .error .onlyAscii
  else
    match CharSet.Tables.property? name with
    | some s => return (.set (negatedIf negated (folded f s)), rest)
    | none => .error .unknownProperty

/-- The names of word boundaries between braces. -/
def boundaryNames : List (String × (CharSet → Assertion)) :=
  [("start", .wordStart), ("end", .wordEnd), ("start-half", .wordStartHalf),
    ("end-half", .wordEndHalf)]

/-- Characters of the names of word boundaries. -/
def namesBoundary (c : Char) : Bool :=
  c.isAlpha || c == '-'

/-- A one-sided word boundary by its name, up to the closing brace. -/
def readBoundaryName (f : Flags) (word : CharSet) (text : Text) : Read Escaped :=
  let (name, rest) := takeSpacedWhile f namesBoundary false text
  match boundaryNames.find? (·.1.toList == name) with
  | some (_, a) => closeBrace .badEscape (.holds (a word)) rest
  | none => .error .badEscape

/-- A word boundary, after the letter b: a name between braces makes it one-sided. Braces that hold
anything but letters are a repetition count. -/
def readBoundary (f : Flags) (word : CharSet) (text : Text) : Read Escaped :=
  match text with
  | '\x7b' :: inner =>
    match skipBlanks f inner with
    | [] => .error .badEscape
    | c :: rest =>
      if namesBoundary c then readBoundaryName f word (c :: rest)
      else .ok (.holds (.wordBoundary word), text)
  | _ => .ok (.holds (.wordBoundary word), text)

/-- Whether a backslash before a character makes it a literal: all of ASCII but letters, digits and
angle brackets. -/
def isEscapable (c : Char) : Bool :=
  c.toNat < 128 && !c.isAlphanum && c != '<' && c != '>'

/-- Escapes of a single character. -/
def plainEscape? [CharSet.Tables] (f : Flags) (c : Char) : Option Escaped :=
  if isEscapable c then some (.literal c)
  else
    match c with
    | 'd' => some (.set (letterSet f 'd'))
    | 's' => some (.set (letterSet f 's'))
    | 'w' => some (.set (letterSet f 'w'))
    | 'a' => some (.literal '\x07')
    | 'f' => some (.literal '\x0c')
    | 't' => some (.literal '\t')
    | 'n' => some (.literal '\n')
    | 'r' => some (.literal '\r')
    | 'v' => some (.literal '\x0b')
    | 'A' => some (.holds .textStart)
    | 'z' => some (.holds .textEnd)
    | 'B' => some (.holds (.noWordBoundary (letterSet f 'w')))
    | '<' => some (.holds (.wordStart (letterSet f 'w')))
    | '>' => some (.holds (.wordEnd (letterSet f 'w')))
    | _ => none

/-- Escapes that may fail or go on behind their first letter. -/
def readLongEscape [CharSet.Tables] (f : Flags) (letter : Char) : Text → Read Escaped :=
  match letter with
  | 'D' => readNegatedLetter f 'd'
  | 'S' => readNegatedLetter f 's'
  | 'W' => readNegatedLetter f 'w'
  | 'x' => readHex f 2
  | 'u' => readHex f 4
  | 'U' => readHex f 8
  | 'p' => readProperty f false
  | 'P' => readProperty f true
  | 'b' => readBoundary f (letterSet f 'w')
  | _ => fun _ => .error .badEscape

/-- An escape, after the backslash. -/
def readEscape [CharSet.Tables] (f : Flags) : Text → Read Escaped
  | [] => .error .badEscape
  | c :: rest =>
    match plainEscape? f c with
    | some e => .ok (e, rest)
    | none => readLongEscape f c rest

/-! ## Classes -/

/-- The set operations of classes. -/
inductive SetOperation where
  | inter | difference | symmetricDifference

/-- The set operation with a sign. -/
def SetOperation.ofSign? : Char → Option SetOperation
  | '&' => some inter
  | '-' => some difference
  | '~' => some symmetricDifference
  | _ => none

/-- Applies a set operation. Both sides are taken with their case variants if case is ignored. -/
def SetOperation.apply [CharSet.Tables] (f : Flags) (o : SetOperation) (s t : CharSet) : CharSet :=
  match o with
  | inter => (folded f s).inter (folded f t)
  | difference => (folded f s).difference (folded f t)
  | symmetricDifference => (folded f s).symmetricDifference (folded f t)

/-- A class that is still open: whether it is a complement, the operation that waits for its right side
with the depth of its left side, and the union read since then with the depths of its members. -/
structure OpenClass where
  negated : Bool
  pending : Option (CharSet × Nat × SetOperation) := none
  items : CharSet := .none
  depths : List Nat := []

/-- What an open class holds so far. -/
def OpenClass.content [CharSet.Tables] (f : Flags) (o : OpenClass) : CharSet :=
  match o.pending with
  | some (s, _, op) => op.apply f s o.items
  | none => o.items

/-- The depth of what an open class holds so far. -/
def OpenClass.depth (o : OpenClass) : Nat :=
  match o.pending with
  | some (_, d, _) => depthOf [d, depthOf o.depths]
  | none => depthOf o.depths

/-- Adds an item with a depth to an open class. -/
def OpenClass.add (o : OpenClass) (s : CharSet) (depth : Nat) : OpenClass :=
  { o with items := o.items.union s, depths := depth :: o.depths }

/-- Puts a set operation after what an open class holds. -/
def OpenClass.operate [CharSet.Tables] (f : Flags) (o : OpenClass) (op : SetOperation) : OpenClass :=
  { negated := o.negated, pending := some (o.content f, o.depth, op) }

/-- The set of a class that is closed. -/
def OpenClass.close [CharSet.Tables] (f : Flags) (o : OpenClass) : Except PatternError CharSet :=
  closedSet f o.negated (o.content f)

/-- Hyphens at the start of a class stand for themselves; blanks and comments between them are skipped
in verbose patterns. -/
def takeHyphens (f : Flags) (o : OpenClass) (inComment : Bool) : Text → OpenClass × Text
  | [] => (o, [])
  | c :: rest =>
    if inComment then takeHyphens f o (c != '\n') rest
    else if c = '-' then takeHyphens f (o.add (.single '-') 0) false rest
    else if f.verbose && Text.isBlank c then takeHyphens f o false rest
    else if f.verbose && c == '#' then takeHyphens f o true rest
    else (o, c :: rest)

/-- An open class, unless the text ends. -/
def goOnWithin (opened : OpenClass) (text : Text) : Read OpenClass :=
  if text.isEmpty then .error .unclosedClass else .ok (opened, text)

/-- Opens a class, after the bracket and the caret of a complement: hyphens and then a closing bracket in
front stand for themselves. -/
def openMembers (f : Flags) (negated : Bool) : Text → Read OpenClass
  | [] => .error .unclosedClass
  | c :: rest =>
    let start : OpenClass := { negated }
    if c = ']' then goOnWithin (start.add (.single ']') 0) rest
    else
      let (opened, rest) := takeHyphens f start false (c :: rest)
      goOnWithin opened rest

/-- Opens a class, after the bracket and blanks. A caret makes it a complement. -/
def openClass (f : Flags) : Text → Read OpenClass
  | [] => .error .unclosedClass
  | c :: rest =>
    if c = '^' then openMembers f true (skipBlanks f rest) else openMembers f false (c :: rest)

/-- What follows the name of an ASCII class and its end. -/
def afterClassName? : Text → Option Text
  | ':' :: ']' :: rest => some rest
  | _ => none

/-- An ASCII class from its name on. -/
def namedClass? (text : Text) : Option (CharSet × Text) :=
  let name := text.takeWhile (· != ':')
  (CharSet.asciiClass? name).bind fun s => (afterClassName? (text.drop name.length)).map fun rest => (s, rest)

/-- An ASCII class such as `[:alpha:]`, after the bracket: whether it is a complement, and its set. -/
def asciiClassAt? : Text → Option ((Bool × CharSet) × Text)
  | [] => none
  | c :: rest =>
    if c = ':' then
      let (negated, rest) := takeSign '^' rest
      (namedClass? rest).map fun (s, rest) => ((negated, s), rest)
    else none

/-- One member of a class: a character or an escape. -/
def readMember [CharSet.Tables] (f : Flags) : Text → Read Escaped
  | [] => .error .unclosedClass
  | c :: rest => if c = '\\' then readEscape f rest else .ok (.literal c, rest)

/-- A literal of a class, which must be ASCII if only ASCII counts. -/
def classChar (f : Flags) (c : Char) : Except PatternError Char :=
  if f.asciiOnly && !CharSet.ascii.contains c then .error .onlyAscii else .ok c

/-- A member of a class that is not part of a range. -/
def memberSet (f : Flags) : Escaped → Except PatternError CharSet
  | .literal c => (classChar f c).map .single
  | .set s => .ok s
  | .holds _ => .error .badClassItem

/-- The set of a range of characters, which only literals can limit. -/
def rangeSet (f : Flags) : Escaped → Escaped → Except PatternError CharSet
  | .literal a, .literal b => do
    let first ← classChar f a
    let last ← classChar f b
    if first ≤ last then return .range first last else .error .badRange
  | _, _ => .error .badRange

/-- The end of a range, after the hyphen. A hyphen before a closing bracket or another hyphen makes no
range. -/
def readRangeEnd [CharSet.Tables] (f : Flags) (first : Escaped) (text : Text) : Except PatternError (CharSet × Text) :=
  match skipBlanks f text with
  | [] => .error .unclosedClass
  | c :: rest =>
    if c = ']' ∨ c = '-' then (memberSet f first).map fun s => (s, '-' :: text)
    else do
      let (last, rest) ← readMember f (c :: rest)
      (rangeSet f first last).map fun s => (s, rest)

/-- What follows the first member of an item, after blanks. -/
def readRange [CharSet.Tables] (f : Flags) (first : Escaped) : Text → Except PatternError (CharSet × Text)
  | [] => .error .unclosedClass
  | c :: rest =>
    if c = '-' then readRangeEnd f first rest else (memberSet f first).map fun s => (s, c :: rest)

/-- A member of a class or a range of characters. -/
def readItem [CharSet.Tables] (f : Flags) (text : Text) : Except PatternError (CharSet × Text) := do
  let (first, rest) ← readMember f text
  readRange f first (skipBlanks f rest)

/-- A set operation between the members of a class, which is its sign twice. -/
def operationAt? : Text → Option (SetOperation × Text)
  | c :: d :: rest => if c = d then (SetOperation.ofSign? c).map fun o => (o, rest) else none
  | _ => none

/-- How far a class is read: to its end, with its set and depth, or to a place inside it, with the innermost
open class and those around it. -/
inductive ClassState where
  | done (s : CharSet) (depth : Nat)
  | within (top : OpenClass) (outer : List OpenClass)

/-- A class inside another one, after its bracket: an ASCII class or one that is left open. -/
def classWithin [CharSet.Tables] (f : Flags) (top : OpenClass) (outer : List OpenClass) (text : Text) :
    Read ClassState :=
  match asciiClassAt? text with
  | some ((negated, s), rest) => (closedSet f negated s).map fun s => (.within (top.add s 0) outer, rest)
  | none => (openClass f (skipBlanks f text)).map fun (inner, rest) => (.within inner (top :: outer), rest)

/-- The end of a class that stands for a set. -/
def OpenClass.leave (top : OpenClass) (s : CharSet) : List OpenClass → ClassState
  | [] => .done s (top.depth + 1)
  | next :: outer => .within (next.add s (top.depth + 1)) outer

/-- One member of a class or sign in it, after blanks. -/
def classStep [CharSet.Tables] (f : Flags) (top : OpenClass) (outer : List OpenClass) : Text → Read ClassState
  | [] => .error .unclosedClass
  | c :: rest =>
    if c = '[' then classWithin f top outer rest
    else if c = ']' then (top.close f).map fun s => (top.leave s outer, rest)
    else
      match operationAt? (c :: rest) with
      | some (op, rest) => .ok (.within (top.operate f op) outer, rest)
      | none => (readItem f (c :: rest)).map fun (s, rest) => (.within (top.add s 0) outer, rest)

/-- Reads the rest of a class. -/
def readClass [CharSet.Tables] (f : Flags) : Nat → OpenClass → List OpenClass → Text → Read (CharSet × Nat)
  | 0, _, _, _ => .error .outOfSteps
  | steps + 1, top, outer, text =>
    match classStep f top outer (skipBlanks f text) with
    | .error e => .error e
    | .ok (.done s depth, rest) => .ok ((s, depth), rest)
    | .ok (.within top outer, rest) => readClass f steps top outer rest

/-! ## Groups and flags -/

/-- The flags of a group up to the colon or the closing parenthesis. -/
def readFlags (f : Flags) (on : Bool) (seen : List Char) : Text → Read (Flags × Bool)
  | [] => .error .badFlag
  | c :: rest =>
    if c = ':' then if seen.head? = some '-' then .error .badFlag else .ok ((f, false), rest)
    else if c = ')' then
      if seen.head? = some '-' then .error .badFlag
      else if seen.isEmpty then .error .nothingToRepeat
      else .ok ((f, true), rest)
    else if seen.contains c then .error .badFlag
    else if c = '-' then readFlags f false ('-' :: seen) rest
    else
      match f.switch? c on with
      | some f => readFlags f on (c :: seen) rest
      | none => .error .badFlag

/-- Whether a text is the name of a group. -/
def isGroupName [CharSet.Tables] : Text → Bool
  | [] => false
  | c :: more => CharSet.Tables.startsName c && more.all CharSet.Tables.continuesName

/-- The name of a group and the text after the angle bracket that ends it. -/
def readGroupName [CharSet.Tables] (text : Text) : Except PatternError (Text × Text) := do
  let (name, rest) ← takeUntil '>' .badGroupName text
  if isGroupName name then return (name, rest) else .error .badGroupName

/-- An expression of a sequence with its depth, or a place where flags change, which nothing can
repeat. -/
inductive Item where
  | pattern (p : Pattern) (depth : Nat)
  | flags

/-- The pattern of an item that is an expression. -/
def Item.pattern? : Item → Option Pattern
  | .pattern p _ => some p
  | .flags => none

/-- The depth of an item. -/
def Item.depth : Item → Nat
  | .pattern _ d => d
  | .flags => 0

/-- A group that is still open: whether it stays a group when it is closed, and the flags around it, the
alternatives and the items before it. -/
structure OpenGroup where
  kept : Bool
  flags : Flags
  alternatives : List (Pattern × Nat)
  items : List Item

/-- The state of the reader: the flags, the finished alternatives with their depths and the items of the
innermost group, the last ones first, the groups around it, and the names of groups. -/
structure State where
  flags : Flags := {}
  alternatives : List (Pattern × Nat) := []
  items : List Item := []
  outer : List OpenGroup := []
  names : List Text := []

/-- The items of a sequence, the last one first, as one pattern with its depth. -/
def ofItems (items : List Item) : Pattern × Nat :=
  (inSequence (items.reverse.filterMap (·.pattern?)), depthOf (items.map (·.depth)))

namespace State

/-- Adds an expression to the innermost sequence. -/
def push (s : State) (p : Pattern) (depth : Nat) : State :=
  { s with items := .pattern p depth :: s.items }

/-- Adds a character of a set. -/
def pushSet (s : State) (set : CharSet) : State :=
  s.push (.one set) 0

/-- Starts the next alternative of the innermost group. -/
def alternate (s : State) : State :=
  { s with alternatives := ofItems s.items :: s.alternatives, items := [] }

/-- The innermost group as one pattern with its depth. -/
def body (s : State) : Pattern × Nat :=
  let alternatives := (ofItems s.items :: s.alternatives).reverse
  (choice (alternatives.map (·.1)), depthOf (alternatives.map (·.2)))

/-- Opens a group with its own flags. -/
def openGroup (s : State) (inner : Flags) (kept : Bool) : State :=
  { s with
    flags := inner
    alternatives := []
    items := []
    outer := ⟨kept, s.flags, s.alternatives, s.items⟩ :: s.outer }

/-- Closes the innermost group, which becomes an expression of the group around it. -/
def closeGroup (s : State) : Except PatternError State :=
  match s.outer with
  | [] => .error .unopenedGroup
  | g :: outer =>
    let (p, depth) := s.body
    .ok
      { s with
        flags := g.flags
        alternatives := g.alternatives
        items := .pattern (if g.kept then .group p else p) (depth + 1) :: g.items
        outer }

/-- Repeats the last expression of the innermost sequence. -/
def repeatLast (s : State) (least : Nat) (most : Option Nat) (lazy : Bool) :
    Except PatternError State :=
  match s.items with
  | .pattern p depth :: items =>
    .ok { s with items := .pattern (p.times least most (lazy == s.flags.swapGreed)) (depth + 1) :: items }
  | _ => .error .nothingToRepeat

/-- A group with a name, after the opening angle bracket. -/
def enterNamed [CharSet.Tables] (s : State) (text : Text) : Except PatternError (State × Text) := do
  let (name, rest) ← readGroupName text
  if s.names.contains name then .error .badGroupName
  else return ({ s.openGroup s.flags true with names := name :: s.names }, rest)

/-- A group with flags or flags for what follows, after the question mark. -/
def enterFlags (s : State) (text : Text) : Except PatternError (State × Text) := do
  let ((flags, whole), rest) ← readFlags s.flags true [] text
  if whole then return ({ s with flags, items := .flags :: s.items }, rest)
  else return (s.openGroup flags false, rest)

/-- Whether a sign of look-around comes next. -/
def looksAround (text : Text) : Bool :=
  text.head? == some '=' || text.head? == some '!'

/-- A group of a special kind, after the question mark. -/
def enterSpecial [CharSet.Tables] (s : State) : Text → Except PatternError (State × Text)
  | [] => .error .badFlag
  | c :: rest =>
    if looksAround (c :: rest) || (c == '<' && looksAround rest) then .error .lookAround
    else if c = '<' then s.enterNamed rest
    else if c = 'P' ∧ rest.head? = some '<' then s.enterNamed rest.tail
    else s.enterFlags (c :: rest)

/-- A group, after the opening parenthesis. -/
def enter [CharSet.Tables] (s : State) (text : Text) : Except PatternError (State × Text) :=
  match skipBlanks s.flags text with
  | '?' :: rest => s.enterSpecial rest
  | _ => .ok (s.openGroup s.flags true, text)

end State

/-! ## Repetition and expressions -/

/-- Whether a question mark makes a repetition lazy, and the text after it. -/
def takeLazy : Text → Bool × Text :=
  takeSign '?'

/-- The same with blanks in front of the question mark. -/
def takeLazyAfterBlanks (f : Flags) (text : Text) : Bool × Text :=
  let (lazy, rest) := takeLazy (skipBlanks f text)
  if lazy then (true, rest) else (false, text)

/-- The upper bound of a counted repetition, after the comma. -/
def readMost (f : Flags) (least : Nat) : Text → Except PatternError ((Nat × Option Nat) × Text)
  | [] => .error .badCount
  | c :: rest =>
    if c = '\x7d' then .ok ((least, none), rest)
    else do
      let (most, rest) ← readNumber f (c :: rest)
      if least ≤ most then closeBrace .badCount (least, some most) (skipBlanks f rest)
      else .error .badCount

/-- A counted repetition, after its lower bound. -/
def readBounds (f : Flags) (least : Nat) : Text → Read (Nat × Option Nat)
  | [] => .error .badCount
  | c :: rest =>
    if c = ',' then readMost f least (skipBlanks f rest)
    else closeBrace .badCount (least, some least) (c :: rest)

/-- A counted repetition, after the opening brace. -/
def readCount (f : Flags) (text : Text) : Except PatternError ((Nat × Option Nat) × Text) := do
  let (least, rest) ← readNumber f (skipBlanks f text)
  readBounds f least (skipBlanks f rest)

/-- The set of the dot. -/
def dot (f : Flags) : CharSet :=
  if f.dotAll then .all
  else if f.anyBreak then ((CharSet.single '\n').union (.single '\r')).complement
  else (CharSet.single '\n').complement

/-- The assertion of the caret. -/
def caret (f : Flags) : Assertion :=
  if !f.multiLine then .textStart else if f.anyBreak then .lineStartAnyBreak else .lineStart

/-- The assertion of the dollar sign. -/
def dollar (f : Flags) : Assertion :=
  if !f.multiLine then .textEnd else if f.anyBreak then .lineEndAnyBreak else .lineEnd

namespace State

/-- Repeats the last expression, after a single sign. -/
def repeatSimply (s : State) (least : Nat) (most : Option Nat) (text : Text) :
    Except PatternError (State × Text) :=
  let (lazy, rest) := takeLazy text
  (s.repeatLast least most lazy).map fun s => (s, rest)

/-- Repeats the last expression as often as it is written, after the opening brace. -/
def repeatCounted (s : State) (text : Text) : Except PatternError (State × Text) := do
  let ((least, most), rest) ← readCount s.flags text
  let (lazy, rest) := takeLazyAfterBlanks s.flags rest
  (s.repeatLast least most lazy).map fun s => (s, rest)

/-- A class, after the opening bracket. -/
def readSet [CharSet.Tables] (s : State) (text : Text) : Except PatternError (State × Text) := do
  let (opened, rest) ← openClass s.flags (skipBlanks s.flags text)
  (readClass s.flags (rest.length + 1) opened [] rest).map fun ((set, depth), rest) =>
    (s.push (.one set) depth, rest)

/-- Adds the set of the dot. -/
def readDot (s : State) (text : Text) : Except PatternError (State × Text) :=
  if s.flags.asciiOnly then .error .partOfCharacter else .ok (s.pushSet (dot s.flags), text)

/-- Adds what an escape stands for. -/
def pushEscaped [CharSet.Tables] (s : State) : Escaped → State
  | .literal c => s.pushSet (folded s.flags (.single c))
  | .set set => s.pushSet set
  | .holds a => s.push (.holds a) 0

/-- An escape, after the backslash. -/
def readEscaped [CharSet.Tables] (s : State) (text : Text) : Except PatternError (State × Text) :=
  (readEscape s.flags text).map fun (e, rest) => (s.pushEscaped e, rest)

/-- Closes the innermost group, after the closing parenthesis. -/
def leave (s : State) (text : Text) : Except PatternError (State × Text) :=
  s.closeGroup.map fun s => (s, text)

end State

/-- One expression, flag, or sign between expressions. -/
def step [CharSet.Tables] (s : State) (c : Char) : Text → Except PatternError (State × Text) :=
  match c with
  | '(' => s.enter
  | ')' => s.leave
  | '|' => fun rest => .ok (s.alternate, rest)
  | '[' => s.readSet
  | '?' => s.repeatSimply 0 (some 1)
  | '*' => s.repeatSimply 0 none
  | '+' => s.repeatSimply 1 none
  | '\x7b' => s.repeatCounted
  | '.' => s.readDot
  | '^' => fun rest => .ok (s.push (.holds (caret s.flags)) 0, rest)
  | '$' => fun rest => .ok (s.push (.holds (dollar s.flags)) 0, rest)
  | '\\' => s.readEscaped
  | c => fun rest => .ok (s.pushSet (folded s.flags (.single c)), rest)

/-- The state in which reading expressions ends. -/
def readFrom [CharSet.Tables] : Nat → State → Text → Except PatternError State
  | 0, _, _ => .error .outOfSteps
  | steps + 1, s, text =>
    match skipBlanks s.flags text with
    | [] => .ok s
    | c :: rest =>
      match step s c rest with
      | .error e => .error e
      | .ok (s, rest) => readFrom steps s rest

/-- The pattern with its depth, if no group is open. -/
def State.finish (s : State) : Except PatternError (Pattern × Nat) :=
  if s.outer.isEmpty then .ok s.body else .error .unclosedGroup

/-- Reads expressions until the text ends. -/
def readAll [CharSet.Tables] (steps : Nat) (s : State) (text : Text) : Except PatternError (Pattern × Nat) :=
  readFrom steps s text >>= State.finish

/-- The pattern that a text writes, with its depth, however deep and large it is. -/
def syntaxOf [CharSet.Tables] (text : Text) : Except PatternError (Pattern × Nat) :=
  readAll (text.length + 1) {} text

/-- The pattern that a text writes, refused if it is nested too deeply or takes too much space. -/
def read [CharSet.Tables] (text : Text) : Except PatternError Pattern := do
  let (p, depth) ← syntaxOf text
  if depthLimit < depth then .error .tooDeep
  else if p.fits then return p
  else .error .tooLarge

end Pattern

end TextAnalysis
