/-
# Search

Finding the matches of a pattern. A machine walks along the places of a text and holds, at every place,
the nodes that it has reached, the preferred ones first and each node once. A match is the one that the
most preferred nodes lead to, at the first place where there is a match.
-/
import TextAnalysis.Pattern.Machine

namespace TextAnalysis

namespace Node

/-- The nodes that follow at the same place. -/
def followers (place : Place) : Node → List Nat
  | accept | take _ _ => []
  | ask a next => if a.holdsAt place then [next] else []
  | fork first second => [first, second]

/-- Whether a machine waits at a node for the next character, or ends there. -/
def isResting : Node → Bool
  | accept | take _ _ => true
  | ask _ _ | fork _ _ => false

/-- The node that follows after a character. -/
def next? (after : Option Char) : Node → Option Nat
  | take s next => if after.any s.contains then some next else none
  | _ => none

end Node

namespace Machine

/-- A node of a list of marks that is marked now has been unmarked before, so fewer are left. -/
theorem count_mark_lt {seen : Array Bool} {k : Nat} (h : seen[k]? = some false) :
    (seen.setIfInBounds k true).count false < seen.count false := by
  obtain ⟨hk, hv⟩ := Array.getElem?_eq_some_iff.1 h
  have pos : 0 < seen.count false := Array.count_pos_iff.2 (hv ▸ Array.getElem_mem hk)
  rw [Array.setIfInBounds, dif_pos hk, Array.count_set hk, hv]
  show seen.count false - 1 + 0 < seen.count false
  omega

/-- Goes on from the nodes in `pending`, the first of them first, as far as no character is needed. Adds
the nodes at which the machine rests to `reached`; a node that has been `seen` is passed over. -/
def spread (m : Machine) (place : Place) (pending : List Nat) (seen : Array Bool)
    (reached : Array Nat) : Array Nat :=
  match pending with
  | [] => reached
  | k :: pending =>
    if h : seen[k]? = some false then
      have _fewer := count_mark_lt h
      match m.nodes[k]? with
      | some node =>
        spread m place (node.followers place ++ pending) (seen.setIfInBounds k true)
          (if node.isResting then reached.push k else reached)
      | none => spread m place pending (seen.setIfInBounds k true) reached
    else spread m place pending seen reached
termination_by (seen.count false, pending.length)
decreasing_by
  · exact .left _ _ _fewer
  · exact .left _ _ _fewer
  · exact .right _ (by simp)

/-- The nodes reached at a place from a list of nodes. -/
def reachedAt (m : Machine) (place : Place) (pending : List Nat) : Array Nat :=
  m.spread place pending (Array.replicate m.nodes.size false) #[]

/-- Whether a node ends a match. -/
def accepts (m : Machine) (k : Nat) : Bool :=
  match m.nodes[k]? with
  | some .accept => true
  | _ => false

/-- Where the preferred match ends that goes on from the nodes in `pending` along the places, or else
`found`. A node that ends a match puts an end to those after it. -/
def endFrom (m : Machine) : List Place → List Nat → Option Nat → Option Nat
  | [], _, found => found
  | place :: places, pending, found =>
    let reached := m.reachedAt place pending
    let preferred := reached.toList.takeWhile (! m.accepts ·)
    let found := if preferred.length < reached.size then some place.index else found
    let next := preferred.filterMap fun k => m.nodes[k]?.bind (·.next? place.after)
    if next.isEmpty then found else endFrom m places next found

/-- Where the preferred match that starts at the first of the places ends. -/
def matchEnd? (m : Machine) (places : List Place) : Option Nat :=
  m.endFrom places [m.start] none

/-- The matches that start at one of the places, from left to right. A match starts at `resume` or later,
and an empty one not where the match before it ended. -/
def matchesFrom (m : Machine) (resume : Nat) (ended : Option Nat) : List Place → List (Nat × Nat)
  | [] => []
  | place :: places =>
    if place.index < resume then matchesFrom m resume ended places
    else
      match m.matchEnd? (place :: places) with
      | none => matchesFrom m resume ended places
      | some k =>
        if k = place.index ∧ ended = some k then matchesFrom m resume ended places
        else (place.index, k) :: matchesFrom m k (some k) places

/-- Whether there is a match that starts at one of the places. -/
def occursFrom (m : Machine) : List Place → Bool
  | [] => false
  | place :: places => (m.matchEnd? (place :: places)).isSome || occursFrom m places

end Machine

namespace Pattern

/-- The matches of a pattern in a text, from left to right and without overlaps, as start and end. -/
def matchesIn (p : Pattern) (text : Text) : List (Nat × Nat) :=
  (Machine.ofPattern p).matchesFrom 0 none (Place.list text)

/-- Whether a pattern matches anywhere in a text. -/
def occursIn (p : Pattern) (text : Text) : Bool :=
  (Machine.ofPattern p).occursFrom (Place.list text)

end Pattern

end TextAnalysis
