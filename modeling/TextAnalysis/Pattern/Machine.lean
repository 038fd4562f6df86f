/-
# Machines

A pattern as a graph of nodes. A node ends a match, takes a character, asks for a condition, or offers two
ways of which the first is preferred. The nodes of a pattern are added in front of the node that follows
it, so a node leads to nodes that are there already; only a loop leads back to a node that is completed
after the pattern it repeats.
-/
import TextAnalysis.Pattern

namespace TextAnalysis

/-- A node of a machine, with the numbers of the nodes that follow it. -/
inductive Node where
  | accept
  | take (s : CharSet) (next : Nat)
  | ask (a : Assertion) (next : Nat)
  | fork (first second : Nat)
  deriving Repr

/-- A machine: its nodes and the number of the one it starts at. -/
structure Machine where
  nodes : Array Node
  start : Nat
  deriving Repr

namespace Machine

/-- Adds a node and starts there. -/
def add (m : Machine) (node : Node) : Machine :=
  let k := m.nodes.size
  ⟨m.nodes.push node, k⟩

/-- Goes on at another node. -/
def restart (m : Machine) (start : Nat) : Machine :=
  { m with start }

/-- Adds a choice between the start and another node. -/
def addFork (m : Machine) (greedy : Bool) (other : Nat) : Machine :=
  let start := m.start
  m.add (if greedy then .fork start other else .fork other start)

/-- Adds something `n` times, each time in front of what is there. -/
def addCopies (piece : Machine → Machine) : Nat → Machine → Machine
  | 0, m => m
  | n + 1, m => addCopies piece n (piece m)

/-- Completes the fork of a loop: it leads back to the start or out of the loop. -/
def closeLoop (m : Machine) (fork : Nat) (greedy : Bool) (exit : Nat) : Machine :=
  match m with
  | ⟨nodes, start⟩ =>
    ⟨nodes.setIfInBounds fork (if greedy then .fork start exit else .fork exit start), start⟩

/-- Adds something once or more often: a fork behind it leads back to it. Returns the fork as well. -/
def addLoop (piece : Machine → Machine) (greedy : Bool) (m : Machine) : Nat × Machine :=
  match m with
  | ⟨nodes, exit⟩ =>
    match Machine.add ⟨nodes, exit⟩ (.fork exit exit) with
    | ⟨nodes, fork⟩ => (fork, (piece ⟨nodes, fork⟩).closeLoop fork greedy exit)

/-- Adds something up to `n` times. -/
def addOptional (piece : Machine → Machine) (greedy : Bool) (n : Nat) (m : Machine) : Machine :=
  let exit := m.start
  addCopies (fun m => (piece m).addFork greedy exit) n m

/-- Adds something any number of times. The loop starts at its fork, or at a second one if what is repeated
may take no characters. -/
def addStar (piece : Machine → Machine) (takesSome : Bool) (greedy : Bool) (m : Machine) : Machine :=
  match m with
  | ⟨nodes, exit⟩ =>
    match addLoop piece greedy ⟨nodes, exit⟩ with
    | (fork, loop) => if takesSome then loop.restart fork else loop.addFork greedy exit

/-- Adds a pattern in front of the start. -/
def addPattern : Pattern → Machine → Machine
  | .empty, m => m
  | .one s, m =>
    let next := m.start
    m.add (.take s next)
  | .holds a, m =>
    let next := m.start
    m.add (.ask a next)
  | .group p, m => addPattern p m
  | .sequence p q, m => addPattern p (addPattern q m)
  | .either p q, m =>
    let exit := m.start
    let second := addPattern q m
    let other := second.start
    (addPattern p (second.restart exit)).addFork true other
  | .repeated p least (some most) greedy, m =>
    addCopies (addPattern p) least (addOptional (addPattern p) greedy (most - least) m)
  | .repeated p 0 none greedy, m => addStar (addPattern p) p.takesSome greedy m
  | .repeated p (more + 1) none greedy, m =>
    addCopies (addPattern p) more (addLoop (addPattern p) greedy m).2

/-- The machine of a pattern. -/
def ofPattern (p : Pattern) : Machine :=
  addPattern p ⟨#[.accept], 0⟩

end Machine

end TextAnalysis
