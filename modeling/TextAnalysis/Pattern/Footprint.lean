/-
# Footprint

The space that a pattern takes as an automaton over the bytes of UTF-8 text. There are two automata: one
reads forwards, and one reads backwards to find where a match starts. A pattern is refused if one of them
takes more than ten mebibytes.

A state takes 32 bytes, with 8 more for each of its byte ranges if it has a list of them, and 4 more for
each way on if it offers several. Sets of characters share states: a state is looked up in a bounded table
before it is added, and one that has lost its place there to another is added again.
-/
import TextAnalysis.Pattern.Combined
import TextAnalysis.Text.Utf8
import Std.Data.HashMap

namespace TextAnalysis.Pattern

/-- The largest number of bytes that an automaton may take. -/
def sizeLimit : Nat :=
  10485760

/-- How far an automaton has been drawn up: its number of states and the bytes that they take. -/
structure Draft where
  states : Nat
  bytes : Nat
  deriving Repr

/-- A step of drawing up an automaton, which fails if the automaton becomes too large. -/
abbrev Drafting := StateT Draft Option

/-- The direction in which an automaton reads. -/
inductive Direction where
  | forwards | backwards
  deriving DecidableEq, Repr

namespace Drafting

/-- Adds a state with some bytes beyond its 32 and returns its number. -/
def addState (extra : Nat) : Drafting Nat := fun d =>
  let bytes := d.bytes + 32 + extra
  if bytes ≤ sizeLimit then some (d.states, ⟨d.states + 1, bytes⟩) else none

/-- Adds several states without further bytes. -/
def addStates : Nat → Drafting Unit
  | 0 => pure ()
  | n + 1 => do
    let _ ← addState 0
    addStates n

/-- Adds ways on to states that offer several. -/
def addWays (n : Nat) : Drafting Unit := fun d =>
  let bytes := d.bytes + 4 * n
  if bytes ≤ sizeLimit then some ((), { d with bytes }) else none

/-! ## Sets of characters -/

/-- States that may be shared: for each place of the table the contents and the number of a state. -/
structure Shared where
  places : Nat
  states : Std.HashMap Nat (List Nat × Nat) := {}

/-- A number below a bound that the numbers of a list determine: they are mixed in one after the other by
exclusive or and multiplication, modulo the sixty-fourth power of two. -/
def mixed (bound : Nat) (numbers : List Nat) : Nat :=
  (numbers.foldl (fun (h : UInt64) n => (h ^^^ n.toUInt64) * 1099511628211)
    14695981039346656037).toNat % bound

/-- Adds a state with given contents unless it is shared. -/
def addShared (shared : Shared) (contents : List Nat) (extra : Nat) : Drafting (Nat × Shared) := do
  let place := mixed shared.places contents
  match shared.states[place]? with
  | some (found, k) =>
    if found = contents then return (k, shared)
    else
      let k ← addState extra
      return (k, { shared with states := shared.states.insert place (contents, k) })
  | none =>
    let k ← addState extra
    return (k, { shared with states := shared.states.insert place (contents, k) })

/-- Adds the states of byte sequences of at most the given length, read forwards to the state `target`:
one for each beginning that some of them share, after the states that follow it. -/
def addForwards (target : Nat) : Nat → List Utf8.ByteRanges → Shared → Drafting (Nat × Shared)
  | 0, _, shared => pure (target, shared)
  | length + 1, sequences, shared => do
    if sequences.any (·.isEmpty) then return (target, shared)
    let groups := sequences.splitBy fun a b => a.head? == b.head?
    let (contents, shared) ← groups.foldlM (fun (contents, shared) group => do
      let (next, shared) ← addForwards target length (group.map (·.tail)) shared
      match group.head?.bind (·.head?) with
      | some (first, last) => return (contents ++ [first, last, next], shared)
      | none => return (contents, shared)) (([] : List Nat), shared)
    addShared shared contents (8 * groups.length)

/-- Adds the states of a byte sequence read backwards to the state `target`. -/
def addBackwards (target : Nat) : Utf8.ByteRanges → Shared → Drafting Shared
  | [], shared => pure shared
  | (first, last) :: rest, shared => do
    let (k, shared) ← addShared shared [target, first, last] 0
    addBackwards k rest shared

/-- How a set of characters is drawn up: a single character by its bytes, a set of ASCII characters by its
ranges, any other set by its byte sequences. -/
inductive Layout where
  | bytes (n : Nat)
  | ranges (n : Nat)
  | sequences (sequences : List Utf8.ByteRanges)
  deriving Repr

/-- How a set is drawn up. -/
def layout (s : CharSet) : Layout :=
  match s.single? with
  | some c => .bytes c.utf8Size
  | none =>
    let ranges := s.ranges
    if ranges.all (·.2 < 128) then .ranges ranges.length
    else .sequences (ranges.flatMap fun (first, last) => Utf8.sequences first last)

/-- Adds the states of a set. -/
def addSet (direction : Direction) : Layout → Drafting Unit
  | .bytes n => addStates n
  | .ranges n => do
    addStates 1
    let _ ← addState (8 * n)
  | .sequences sequences => do
    match direction with
    | .forwards =>
      let target ← addState 0
      let _ ← addForwards target 4 sequences { places := 10000 }
    | .backwards =>
      let _ ← addState 0
      let target ← addState 0
      let _ ← sequences.foldlM (fun shared sequence => addBackwards target sequence shared)
        ({ places := 1000 } : Shared)
      addWays sequences.length

/-! ## Words -/

/-- Cuts a list of words at the empty ones. Of the empty words in front only one counts. -/
def chunks : List (List Nat) → List (List (List Nat))
  | [] => [[]]
  | [] :: [] :: words => chunks ([] :: words)
  | [] :: words => [] :: cut words
  | words => cut words
where
  /-- Cuts a list of words at the empty ones. -/
  cut : List (List Nat) → List (List (List Nat))
    | [] => [[]]
    | [] :: words => [] :: cut words
    | word :: words =>
      match cut words with
      | [] => [[word]]
      | chunk :: rest => (word :: chunk) :: rest

/-- Adds the states of a choice between words of less than the given length. Words that begin alike share
states, except across a word that ends there. -/
def addWords : Nat → List (List Nat) → Drafting Unit
  | 0, _ => pure ()
  | length + 1, words => do
    if words.all (·.isEmpty) then return
    let chunks := chunks words
    chunks.forM fun chunk => do
      let firsts := (chunk.filterMap (·.head?)).eraseDups
      firsts.forM fun b =>
        addWords length ((chunk.filter (·.head? == some b)).map (·.tail))
      match firsts.length with
      | 0 => pure ()
      | 1 => addStates 1
      | n =>
        let _ ← addState (8 * n)
    let filled := (chunks.filter (! ·.isEmpty)).length
    let _ ← addState (4 * (filled + (chunks.length - 1)))

/-- Adds the states of a choice between texts. -/
def addTexts (direction : Direction) (texts : List Text) : Drafting Bool := do
  let words := texts.map (·.flatMap Utf8.bytes)
  let words :=
    match direction with
    | .forwards => words
    | .backwards => words.map List.reverse
  let _ ← addState 0
  addWords ((words.map List.length).foldr max 0 + 1) words
  return false

/-! ## Patterns

Drawing up a pattern tells whether it ends in a state that offers several ways: what follows is then one
more way on. -/

/-- Joins what follows to an end. -/
def join (isOpen : Bool) : Drafting Unit :=
  addWays (if isOpen then 1 else 0)

/-- Adds something `n` times after an end. -/
def addCopies (piece : Drafting Bool) : Nat → Bool → Drafting Bool
  | 0, isOpen => pure isOpen
  | n + 1, isOpen => do
    let next ← piece
    join isOpen
    addCopies piece n next

/-- Adds something a fixed number of times. -/
def addExactly (piece : Drafting Bool) : Nat → Drafting Bool
  | 0 => do
    addStates 1
    return false
  | n + 1 => do addCopies piece n (← piece)

/-- Adds a choice between something and what follows. -/
def addOptional (piece : Drafting Bool) : Drafting Bool := do
  addStates 1
  addWays 2
  piece

/-- Adds a repetition. -/
def addRepeated (piece : Drafting Bool) (takesSome : Bool) (least : Nat) (most : Option Nat) :
    Drafting Bool := do
  match least, most with
  | 0, some 1 =>
    let isOpen ← addOptional piece
    addStates 1
    join isOpen
    return false
  | least, some most =>
    let isOpen ← addExactly piece least
    if most ≤ least then return isOpen
    addStates 1
    let isOpen ← addCopies (addOptional piece) (most - least) isOpen
    join isOpen
    return false
  | 0, none =>
    if takesSome then
      addStates 1
      join (← piece)
      addWays 1
      return true
    let isOpen ← piece
    addStates 3
    join isOpen
    addWays 4
    return false
  | least, none =>
    let isOpen ← addExactly piece least
    addStates 1
    join isOpen
    addWays 1
    return true

/-- Adds a choice. -/
def addChoice : List (Drafting Bool) → Drafting Bool
  | [] => do
    addStates 1
    return false
  | [piece] => piece
  | first :: second :: others => do
    let isOpen ← first
    let isOpen' ← second
    addStates 2
    addWays 2
    join isOpen
    join isOpen'
    others.forM fun piece => do
      join (← piece)
      addWays 1
    return false

end Drafting

open Drafting

/-- The texts of a choice between two or more fixed texts. -/
def texts? (p : Pattern) : Option (List Text) :=
  match p.branches with
  | [] | [_] => none
  | branches => branches.mapM fun branch =>
    match branch.factors with
    | [] => none
    | factors => factors.mapM char?

/-- Whether a set without characters occurs in a pattern. -/
def hasEmptySet : Pattern → Bool
  | empty | holds _ => false
  | one s => s.ranges.isEmpty
  | group p | repeated p _ _ _ => p.hasEmptySet
  | sequence p q | either p q => p.hasEmptySet || q.hasEmptySet

/-- Draws up a pattern that has the given alternatives. -/
def draftOf (direction : Direction) (p : Pattern) (alternatives : List (Drafting Bool)) :
    Drafting Bool :=
  match p.texts? with
  | some texts => addTexts direction texts
  | none => addChoice alternatives

/-- The alternatives of a pattern, each to be drawn up. -/
def drafts (direction : Direction) : Pattern → List (Drafting Bool)
  | empty => [do
    addStates 1
    return false]
  | one s =>
    let layout := layout s
    [do
      addSet direction layout
      return false]
  | holds _ => [do
    addStates 1
    return false]
  | group p =>
    let inner := draftOf direction p (drafts direction p)
    match direction with
    | .forwards => [do
      addStates 1
      let isOpen ← inner
      addStates 1
      join isOpen
      return false]
    | .backwards => [inner]
  | sequence p q =>
    let first := draftOf direction p (drafts direction p)
    let second := draftOf direction q (drafts direction q)
    match direction with
    | .forwards => [do
      join (← first)
      second]
    | .backwards => [do
      join (← second)
      first]
  | either p q => drafts direction p ++ drafts direction q
  | repeated p least most _ =>
    [addRepeated (draftOf direction p (drafts direction p)) (p.takesSome && !p.hasEmptySet) least most]

/-- Whether every match is bound to the start of the text. -/
def startsText : Pattern → Bool
  | empty | one _ => false
  | holds a => a == .textStart
  | group p => p.startsText
  | sequence p q => p.startsText || (p.takesNothing && q.startsText)
  | either p q => p.startsText && q.startsText
  | repeated p least _ _ => 0 < least && p.startsText

/-- Whether every match is bound to the end of the text. -/
def endsText : Pattern → Bool
  | empty | one _ => false
  | holds a => a == .textEnd
  | group p => p.endsText
  | sequence p q => q.endsText || (q.takesNothing && p.endsText)
  | either p q => p.endsText && q.endsText
  | repeated p least _ _ => 0 < least && p.endsText

/-- Draws up the automaton of a pattern. In front is a loop over all bytes, or a single state if all matches
are bound to where the automaton starts. -/
def draft (direction : Direction) (p : Pattern) : Drafting Unit := do
  let bound :=
    match direction with
    | .forwards => p.startsText
    | .backwards => p.endsText
  addStates 1
  if !bound then
    addStates 1
    let _ ← addState 8
    addWays 2
  if direction = .forwards then addStates 1
  let isOpen ← draftOf direction p (drafts direction p)
  addStates 1
  join isOpen
  if direction = .forwards then addStates 1

/-- A bound on the bytes that a pattern takes, found without drawing up an automaton. A range of characters
has at most 21 byte sequences, and each of them takes at most 132 bytes. A repetition draws up its pattern
as often as its larger bound says, and once at least. -/
def roughSize : Pattern → Nat
  | empty | holds _ => 32
  | one s => 2772 * s.rangeBound + 128
  | group p => p.roughSize + 68
  | sequence p q => p.roughSize + q.roughSize + 4
  | either p q => p.roughSize + q.roughSize + 80
  | repeated p least most _ => max (max least 1) (most.getD 0) * (p.roughSize + 80) + 160

/-- Whether the automata of a pattern keep to the limit. -/
def fits (p : Pattern) : Bool :=
  p.roughSize + 256 ≤ sizeLimit ||
    [Direction.forwards, .backwards].all fun direction => ((draft direction p).run ⟨0, 0⟩).isSome

end TextAnalysis.Pattern
