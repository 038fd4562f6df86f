/-
# Patterns

A pattern describes pieces of a text. It is built from sets of characters and assertions by sequences,
choices, repetitions and groups. This module holds the type, the places of a text and the assertions on
them.
-/
import TextAnalysis.Text
import TextAnalysis.Pattern.CharSet

namespace TextAnalysis

/-- A condition on a position between two characters. Those on words say what the characters of words are. -/
inductive Assertion where
  | textStart | textEnd
  | lineStart | lineEnd
  | lineStartAnyBreak | lineEndAnyBreak
  | wordBoundary (word : CharSet) | noWordBoundary (word : CharSet)
  | wordStart (word : CharSet) | wordEnd (word : CharSet)
  | wordStartHalf (word : CharSet) | wordEndHalf (word : CharSet)
  deriving DecidableEq, Repr

/-- A pattern. `repeated p least most greedy` is `p` from `least` to `most` times in a row, without an
upper bound if `most` is `none`; a greedy repetition prefers more of them. A `group` matches what its
pattern matches; it keeps the pattern apart from those around it. -/
inductive Pattern where
  | empty
  | one (s : CharSet)
  | holds (a : Assertion)
  | group (p : Pattern)
  | sequence (p q : Pattern)
  | either (p q : Pattern)
  | repeated (p : Pattern) (least : Nat) (most : Option Nat) (greedy : Bool)
  deriving Repr

/-! ## Places and assertions -/

/-- A position of a text with the characters on its two sides. -/
structure Place where
  index : Nat
  before : Option Char
  after : Option Char
  deriving Repr

namespace Place

/-- The places of the rest of a text, the first with a given index and character before it. -/
def listFrom (index : Nat) (before : Option Char) : Text → List Place
  | [] => [⟨index, before, none⟩]
  | c :: rest => ⟨index, before, some c⟩ :: listFrom (index + 1) (some c) rest

/-- The places of a text, one more than it has characters. -/
def list (text : Text) : List Place :=
  listFrom 0 none text

end Place

namespace Assertion

/-- Whether there is a word character on a side. -/
def wordAt (word : CharSet) (side : Option Char) : Bool :=
  (side.map word.contains).getD false

/-- Whether an assertion holds at a place. -/
def holdsAt (a : Assertion) (p : Place) : Bool :=
  match a with
  | textStart => p.before.isNone
  | textEnd => p.after.isNone
  | lineStart => p.before.isNone || p.before == some '\n'
  | lineEnd => p.after.isNone || p.after == some '\n'
  | lineStartAnyBreak =>
    p.before.isNone || p.before == some '\n' || (p.before == some '\r' && p.after != some '\n')
  | lineEndAnyBreak =>
    p.after.isNone || p.after == some '\r' || (p.after == some '\n' && p.before != some '\r')
  | wordBoundary word => wordAt word p.before != wordAt word p.after
  | noWordBoundary word => wordAt word p.before == wordAt word p.after
  | wordStart word => !wordAt word p.before && wordAt word p.after
  | wordEnd word => wordAt word p.before && !wordAt word p.after
  | wordStartHalf word => !wordAt word p.before
  | wordEndHalf word => !wordAt word p.after

end Assertion

namespace Pattern

/-! ## Lengths -/

/-- Whether a pattern takes no characters in any of its matches. -/
def takesNothing : Pattern → Bool
  | empty | holds _ => true
  | one _ => false
  | group p => p.takesNothing
  | sequence p q | either p q => p.takesNothing && q.takesNothing
  | repeated p _ _ _ => p.takesNothing

/-- Whether a pattern takes characters in all of its matches. -/
def takesSome : Pattern → Bool
  | empty | holds _ => false
  | one _ => true
  | group p => p.takesSome
  | sequence p q => p.takesSome || q.takesSome
  | either p q => p.takesSome && q.takesSome
  | repeated p least _ _ => 0 < least && p.takesSome

end Pattern

end TextAnalysis
