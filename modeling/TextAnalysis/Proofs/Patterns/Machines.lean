/-
# What patterns match

A pattern takes part of the places of a text. Its machine does the same: from the node at which the pattern was added, a
walk gets to the nodes that were there before only through the node in front of which it was added, and there it has
taken what the pattern takes. This holds whatever the nodes before become later, so it also holds of a loop, whose fork
is completed after the pattern that it repeats.
-/
import Mathlib.Logic.Relation
import TextAnalysis.Pattern.Search

namespace TextAnalysis

/-! ## Spans -/

/-- A relation a number of times in a row. -/
def Times {α : Type} (R : α → α → Prop) : Nat → α → α → Prop
  | 0 => Eq
  | n + 1 => Relation.Comp R (Times R n)

namespace Times

variable {α : Type} {R : α → α → Prop} {a b c : α}

theorem add_iff {m n : Nat} : Times R (m + n) a b ↔ Relation.Comp (Times R m) (Times R n) a b := by
  induction m generalizing a with
  | zero =>
    rw [Nat.zero_add]
    exact ⟨fun h => ⟨a, rfl, h⟩, fun ⟨_, rfl, h⟩ => h⟩
  | succ m ih =>
    rw [Nat.succ_add]
    constructor
    · rintro ⟨x, hax, h⟩
      obtain ⟨y, hxy, hyb⟩ := ih.1 h
      exact ⟨y, ⟨x, hax, hxy⟩, hyb⟩
    · rintro ⟨y, ⟨x, hax, hxy⟩, hyb⟩
      exact ⟨x, hax, ih.2 ⟨y, hxy, hyb⟩⟩

theorem trans {m n : Nat} (h : Times R m a b) (h' : Times R n b c) : Times R (m + n) a c :=
  add_iff.2 ⟨b, h, h'⟩

/-- The last of several times comes after the others. -/
theorem succ_iff {n : Nat} : Times R (n + 1) a b ↔ Relation.Comp (Times R n) R a b := by
  rw [add_iff]
  exact exists_congr fun x => and_congr_right fun _ => ⟨fun ⟨_, h, hb⟩ => hb ▸ h, fun h => ⟨b, h, rfl⟩⟩

end Times

namespace Pattern

/-- A pattern takes the places of a text from one on as far as another one. An upper bound of a repetition below the
lower one is none. -/
def Spans : Pattern → List Place → List Place → Prop
  | .empty, ps, qs => ps = qs
  | .one s, ps, qs => ∃ place, ps = place :: qs ∧ place.after.any s.contains = true
  | .holds a, ps, qs => ps = qs ∧ ∃ place ∈ ps.head?, a.holdsAt place = true
  | .group p, ps, qs => p.Spans ps qs
  | .sequence p q, ps, qs => Relation.Comp p.Spans q.Spans ps qs
  | .either p q, ps, qs => p.Spans ps qs ∨ q.Spans ps qs
  | .repeated p least most _, ps, qs => ∃ n, least ≤ n ∧ (∀ m ∈ most, n ≤ max least m) ∧ Times p.Spans n ps qs

/-- A pattern matches the part of a text between two positions. -/
def Matches (p : Pattern) (text : Text) (start finish : Nat) : Prop :=
  start ≤ finish ∧ finish ≤ text.length ∧
    p.Spans ((Place.list text).drop start) ((Place.list text).drop finish)

end Pattern

/-! ## Walks -/

/-- One step of a walk through nodes along the places of a text. -/
inductive Goes (nodes : Array Node) : Nat × List Place → Nat × List Place → Prop
  | take {k next : Nat} {s : CharSet} {place : Place} {ps : List Place} (hnode : nodes[k]? = some (.take s next))
      (hs : place.after.any s.contains = true) : Goes nodes (k, place :: ps) (next, ps)
  | ask {k next : Nat} {a : Assertion} {place : Place} {ps : List Place} (hnode : nodes[k]? = some (.ask a next))
      (ha : a.holdsAt place = true) : Goes nodes (k, place :: ps) (next, place :: ps)
  | fork {k first second next : Nat} {ps : List Place} (hnode : nodes[k]? = some (.fork first second))
      (hnext : next = first ∨ next = second) : Goes nodes (k, ps) (next, ps)

/-- A walk of a number of steps. -/
abbrev Walk (nodes : Array Node) : Nat → Nat × List Place → Nat × List Place → Prop :=
  Times (Goes nodes)

namespace Machine

/-- Nodes are the same from a number on as those of a machine. -/
def AgreesFrom (lo : Nat) (m : Machine) (nodes : Array Node) : Prop :=
  ∀ k, lo ≤ k → k < m.nodes.size → nodes[k]? = m.nodes[k]?

/-- A machine comes from another one by adding something in front of its start that spans places. Walks through the
added nodes leave them at that start. -/
structure Adds (m m' : Machine) (S : List Place → List Place → Prop) : Prop where
  size_le : m.nodes.size ≤ m'.nodes.size
  kept : ∀ k, k < m.nodes.size → m'.nodes[k]? = m.nodes[k]?
  goesOn : ∀ k, m.nodes.size ≤ k → m'.nodes[k]? ≠ some .accept
  complete : ∀ nodes, m'.AgreesFrom m.nodes.size nodes → ∀ ps qs, S ps qs →
    ∃ n, Walk nodes n (m'.start, ps) (m.start, qs)
  sound : ∀ nodes, m'.AgreesFrom m.nodes.size nodes → ∀ n ps k qs, k < m.nodes.size →
    Walk nodes n (m'.start, ps) (k, qs) → ∃ rs n', n' ≤ n ∧ S ps rs ∧ Walk nodes n' (m.start, rs) (k, qs)

namespace Adds

variable {m m₁ m₂ : Machine} {S T : List Place → List Place → Prop}

theorem congr (h : Adds m m₁ S) (hST : ∀ ps qs, S ps qs ↔ T ps qs) : Adds m m₁ T := by
  obtain rfl : S = T := funext fun ps => funext fun qs => propext (hST ps qs)
  exact h

/-- Nothing is added. -/
theorem refl (m : Machine) : Adds m m Eq where
  size_le := Nat.le_refl _
  kept _ _ := rfl
  goesOn k hk := by simp [hk]
  complete := by
    rintro _ _ ps _ rfl
    exact ⟨0, rfl⟩
  sound _ _ n ps _ _ _ h := ⟨ps, n, Nat.le_refl n, rfl, h⟩

/-- What agrees with a machine from a number on agrees with what it was made from. -/
theorem agreesFrom (h : Adds m₁ m₂ S) {lo : Nat} {nodes : Array Node} (hnodes : m₂.AgreesFrom lo nodes) :
    m₁.AgreesFrom lo nodes := by
  intro k hlo hk
  rw [hnodes k hlo (Nat.lt_of_lt_of_le hk h.size_le), h.kept k hk]

theorem goesOn_of_kept (h : Adds m m₁ S) (hkept : ∀ k, k < m₁.nodes.size → m₂.nodes[k]? = m₁.nodes[k]?)
    (hgoesOn : ∀ k, m₁.nodes.size ≤ k → m₂.nodes[k]? ≠ some .accept) (k : Nat) (hk : m.nodes.size ≤ k) :
    m₂.nodes[k]? ≠ some .accept := by
  by_cases hlt : k < m₁.nodes.size
  · rw [hkept k hlt]
    exact h.goesOn k hk
  · exact hgoesOn k (Nat.le_of_not_lt hlt)

/-- What is added later stands in front. -/
theorem trans (h : Adds m m₁ T) (h' : Adds m₁ m₂ S) : Adds m m₂ (Relation.Comp S T) where
  size_le := Nat.le_trans h.size_le h'.size_le
  kept k hk := (h'.kept k (Nat.lt_of_lt_of_le hk h.size_le)).trans (h.kept k hk)
  goesOn k hk := h.goesOn_of_kept h'.kept h'.goesOn k hk
  complete nodes hnodes ps qs := by
    rintro ⟨rs, hS, hT⟩
    obtain ⟨n₁, hwalk₁⟩ := h'.complete nodes (fun k hk => hnodes k (Nat.le_trans h.size_le hk)) ps rs hS
    obtain ⟨n₂, hwalk₂⟩ := h.complete nodes (h'.agreesFrom hnodes) rs qs hT
    exact ⟨n₁ + n₂, hwalk₁.trans hwalk₂⟩
  sound nodes hnodes n ps k qs hk hwalk := by
    obtain ⟨rs₁, n₁, hle₁, hS, hwalk₁⟩ := h'.sound nodes (fun k hk => hnodes k (Nat.le_trans h.size_le hk)) n ps k qs
      (Nat.lt_of_lt_of_le hk h.size_le) hwalk
    obtain ⟨rs₂, n₂, hle₂, hT, hwalk₂⟩ := h.sound nodes (h'.agreesFrom hnodes) n₁ rs₁ k qs hk hwalk₁
    exact ⟨rs₂, n₂, Nat.le_trans hle₂ hle₁, ⟨rs₁, hS, hT⟩, hwalk₂⟩

/-- Behind what is added the walk goes on at once. -/
theorem exit (h : Adds m m₁ S) : Adds m (m₁.restart m.start) Eq where
  size_le := h.size_le
  kept := h.kept
  goesOn := h.goesOn
  complete := by
    rintro _ _ ps _ rfl
    exact ⟨0, rfl⟩
  sound _ _ n ps _ _ _ hwalk := ⟨ps, n, Nat.le_refl n, rfl, hwalk⟩

/-- What was added stays there when something else is added. -/
theorem restart {start : Nat} (h : Adds m m₁ S) (h' : Adds (m₁.restart start) m₂ T) :
    Adds m (m₂.restart m₁.start) S where
  size_le := Nat.le_trans h.size_le h'.size_le
  kept k hk := (h'.kept k (Nat.lt_of_lt_of_le hk h.size_le)).trans (h.kept k hk)
  goesOn := h.goesOn_of_kept h'.kept h'.goesOn
  complete nodes hnodes := h.complete nodes (h'.agreesFrom hnodes)
  sound nodes hnodes := h.sound nodes (h'.agreesFrom hnodes)

end Adds

/-! ### Single nodes -/

variable {m m₁ : Machine} {S T : List Place → List Place → Prop}

@[simp] theorem size_add (m : Machine) (node : Node) : (m.add node).nodes.size = m.nodes.size + 1 :=
  Array.size_push _

theorem getElem?_add_of_lt {k : Nat} (m : Machine) (node : Node) (h : k < m.nodes.size) :
    (m.add node).nodes[k]? = m.nodes[k]? := by
  unfold add
  rw [Array.getElem?_push_lt h, Array.getElem?_eq_getElem h]

theorem getElem?_add_size (m : Machine) (node : Node) : (m.add node).nodes[m.nodes.size]? = some node :=
  Array.getElem?_push_size

theorem getElem?_add_of_le {k : Nat} (m : Machine) {node : Node} (hnode : node ≠ .accept) (h : m.nodes.size ≤ k) :
    (m.add node).nodes[k]? ≠ some .accept := by
  rcases Nat.eq_or_lt_of_le h with rfl | h
  · rw [getElem?_add_size]
    exact fun h => hnode (Option.some.inj h)
  · rw [Array.getElem?_eq_none (by rw [size_add]; omega)]
    exact nofun

/-- Nodes that agree with a machine to which a node was added have that node and agree with the rest. -/
theorem AgreesFrom.of_add {lo : Nat} {node : Node} {nodes : Array Node} (h : (m.add node).AgreesFrom lo nodes)
    (hlo : lo ≤ m.nodes.size) : nodes[m.nodes.size]? = some node ∧ m.AgreesFrom lo nodes := by
  constructor
  · rw [h _ hlo (by simp), getElem?_add_size]
  · intro k hk hlt
    rw [h k hk (by simp; omega), getElem?_add_of_lt m node hlt]

/-- A walk that does not end at its first node has a first step. -/
theorem exists_goes {nodes : Array Node} {n k k' : Nat} {ps qs : List Place} (h : Walk nodes n (k, ps) (k', qs))
    (hne : k' ≠ k) : ∃ n' y, n = n' + 1 ∧ Goes nodes (k, ps) y ∧ Walk nodes n' y (k', qs) := by
  cases n with
  | zero =>
    cases h
    exact absurd rfl hne
  | succ n =>
    obtain ⟨y, hgoes, hwalk⟩ := h
    exact ⟨n, y, rfl, hgoes, hwalk⟩

/-- A single node that leads on to the start, after it has taken what it asks for. -/
theorem adds_node (m : Machine) {node : Node} (hnode : node ≠ .accept)
    (hcomplete : ∀ nodes : Array Node, ∀ k ps qs, nodes[k]? = some node →
      S ps qs → Goes nodes (k, ps) (m.start, qs))
    (hsound : ∀ nodes : Array Node, ∀ k ps y, nodes[k]? = some node → Goes nodes (k, ps) y →
      y.1 = m.start ∧ S ps y.2) : Adds m (m.add node) S where
  size_le := by simp
  kept k hk := getElem?_add_of_lt m node hk
  goesOn k hk := getElem?_add_of_le m hnode hk
  complete nodes hnodes ps qs hS := ⟨1, _, hcomplete nodes _ ps qs (hnodes.of_add (Nat.le_refl _)).1 hS, rfl⟩
  sound nodes hnodes n ps k qs hk hwalk := by
    obtain ⟨n', ⟨next, rs⟩, rfl, hgoes, hwalk⟩ := exists_goes hwalk (Nat.ne_of_lt hk)
    obtain ⟨rfl, hS⟩ := hsound nodes _ ps _ (hnodes.of_add (Nat.le_refl _)).1 hgoes
    exact ⟨rs, n', Nat.le_succ n', hS, hwalk⟩

theorem adds_take (m : Machine) (s : CharSet) : Adds m (m.add (.take s m.start)) (Pattern.Spans (.one s)) := by
  refine adds_node m nofun ?_ ?_
  · rintro nodes k _ qs hnode ⟨place, rfl, hs⟩
    exact .take hnode hs
  · intro nodes k ps y hnode hgoes
    cases hgoes with
    | take hnode' hs =>
      cases hnode.symm.trans hnode'
      exact ⟨rfl, _, rfl, hs⟩
    | ask hnode' => cases hnode.symm.trans hnode'
    | fork hnode' => cases hnode.symm.trans hnode'

theorem adds_ask (m : Machine) (a : Assertion) : Adds m (m.add (.ask a m.start)) (Pattern.Spans (.holds a)) := by
  refine adds_node m nofun ?_ ?_
  · rintro nodes k ps _ hnode ⟨rfl, place, hplace, ha⟩
    cases ps with
    | nil => cases hplace
    | cons p ps =>
      cases hplace
      exact .ask hnode ha
  · intro nodes k ps y hnode hgoes
    cases hgoes with
    | take hnode' => cases hnode.symm.trans hnode'
    | ask hnode' ha =>
      cases hnode.symm.trans hnode'
      exact ⟨rfl, rfl, _, rfl, ha⟩
    | fork hnode' => cases hnode.symm.trans hnode'

/-- The first step at a fork goes one of its ways. -/
theorem goes_fork_iff {nodes : Array Node} {k a b : Nat} {ps : List Place} {y : Nat × List Place}
    (hnode : nodes[k]? = some (.fork a b) ∨ nodes[k]? = some (.fork b a)) :
    Goes nodes (k, ps) y ↔ y = (a, ps) ∨ y = (b, ps) := by
  constructor
  · intro hgoes
    cases hgoes with
    | take hnode' => rcases hnode with hnode | hnode <;> cases hnode.symm.trans hnode'
    | ask hnode' => rcases hnode with hnode | hnode <;> cases hnode.symm.trans hnode'
    | fork hnode' hnext =>
      rcases hnode with hnode | hnode
      · cases hnode.symm.trans hnode'
        rcases hnext with rfl | rfl <;> simp
      · cases hnode.symm.trans hnode'
        rcases hnext with rfl | rfl <;> simp
  · rintro (rfl | rfl)
    · rcases hnode with hnode | hnode
      · exact .fork hnode (.inl rfl)
      · exact .fork hnode (.inr rfl)
    · rcases hnode with hnode | hnode
      · exact .fork hnode (.inr rfl)
      · exact .fork hnode (.inl rfl)

/-- A fork in front of two parts offers both. -/
theorem Adds.fork {a b : Nat} (ha : Adds m (m₁.restart a) S) (hb : Adds m (m₁.restart b) T) {node : Node}
    (hnode : node = .fork a b ∨ node = .fork b a) : Adds m (m₁.add node) fun ps qs => S ps qs ∨ T ps qs where
  size_le := by
    have hle : m.nodes.size ≤ m₁.nodes.size := ha.size_le
    rw [size_add]
    omega
  kept k hk := (getElem?_add_of_lt m₁ node (Nat.lt_of_lt_of_le hk ha.size_le)).trans (ha.kept k hk)
  goesOn := by
    have hne : node ≠ .accept := by rcases hnode with rfl | rfl <;> exact nofun
    exact ha.goesOn_of_kept (fun k hk => getElem?_add_of_lt m₁ node hk) fun k hk => getElem?_add_of_le m₁ hne hk
  complete nodes hnodes ps qs h := by
    obtain ⟨hlast, hnodes⟩ := hnodes.of_add ha.size_le
    have hfork : nodes[m₁.nodes.size]? = some (.fork a b) ∨ nodes[m₁.nodes.size]? = some (.fork b a) := by
      rw [hlast, Option.some.injEq, Option.some.injEq]
      exact hnode
    rcases h with h | h
    · obtain ⟨n, hwalk⟩ := ha.complete nodes hnodes ps qs h
      exact ⟨n + 1, _, (goes_fork_iff hfork).2 (.inl rfl), hwalk⟩
    · obtain ⟨n, hwalk⟩ := hb.complete nodes hnodes ps qs h
      exact ⟨n + 1, _, (goes_fork_iff hfork).2 (.inr rfl), hwalk⟩
  sound nodes hnodes n ps k qs hk hwalk := by
    obtain ⟨hlast, hnodes⟩ := hnodes.of_add ha.size_le
    have hfork : nodes[m₁.nodes.size]? = some (.fork a b) ∨ nodes[m₁.nodes.size]? = some (.fork b a) := by
      rw [hlast, Option.some.injEq, Option.some.injEq]
      exact hnode
    obtain ⟨n', y, rfl, hgoes, hwalk⟩ := exists_goes hwalk (Nat.ne_of_lt (Nat.lt_of_lt_of_le hk ha.size_le))
    rcases (goes_fork_iff hfork).1 hgoes with rfl | rfl
    · obtain ⟨rs, n'', hle, hS, hrest⟩ := ha.sound nodes hnodes n' ps k qs hk hwalk
      exact ⟨rs, n'', by omega, .inl hS, hrest⟩
    · obtain ⟨rs, n'', hle, hT, hrest⟩ := hb.sound nodes hnodes n' ps k qs hk hwalk
      exact ⟨rs, n'', by omega, .inr hT, hrest⟩

theorem Adds.addFork (h : Adds m m₁ S) (greedy : Bool) :
    Adds m (m₁.addFork greedy m.start) fun ps qs => S ps qs ∨ ps = qs := by
  refine Adds.fork (a := m₁.start) (b := m.start) h h.exit ?_
  cases greedy
  · exact .inr rfl
  · exact .inl rfl

/-! ### Repetitions -/

/-- A relation any number of times in a row. -/
def AnyTimes (S : List Place → List Place → Prop) (ps qs : List Place) : Prop :=
  ∃ n, Times S n ps qs

theorem anyTimes_iff {ps qs : List Place} : AnyTimes S ps qs ↔ Relation.Comp S (AnyTimes S) ps qs ∨ ps = qs := by
  constructor
  · rintro ⟨_ | n, h⟩
    · exact .inr h
    · obtain ⟨rs, hS, h⟩ := h
      exact .inl ⟨rs, hS, n, h⟩
  · rintro (⟨rs, hS, n, h⟩ | rfl)
    · exact ⟨n + 1, rs, hS, h⟩
    · exact ⟨0, rfl⟩

theorem adds_addCopies {piece : Machine → Machine} (h : ∀ m, Adds m (piece m) S) (n : Nat) (m : Machine) :
    Adds m (addCopies piece n m) (Times S n) := by
  induction n generalizing m with
  | zero => exact .refl m
  | succ n ih => exact ((h m).trans (ih (piece m))).congr fun _ _ => Times.succ_iff.symm

/-- Several times at most: none, or once and then one time less. -/
theorem upTo_succ_iff {n : Nat} {ps qs : List Place} : (∃ j, j ≤ n + 1 ∧ Times S j ps qs) ↔
    Relation.Comp S (fun rs qs => ∃ j, j ≤ n ∧ Times S j rs qs) ps qs ∨ ps = qs := by
  constructor
  · rintro ⟨_ | j, hj, h⟩
    · exact .inr h
    · obtain ⟨rs, hS, h⟩ := h
      exact .inl ⟨rs, hS, j, Nat.le_of_succ_le_succ hj, h⟩
  · rintro (⟨rs, hS, j, hj, h⟩ | rfl)
    · exact ⟨j + 1, Nat.succ_le_succ hj, rs, hS, h⟩
    · exact ⟨0, Nat.zero_le _, rfl⟩

theorem adds_addOptional {piece : Machine → Machine} (h : ∀ m, Adds m (piece m) S) (greedy : Bool) (n : Nat)
    (m : Machine) : Adds m (addOptional piece greedy n m) fun ps qs => ∃ j, j ≤ n ∧ Times S j ps qs := by
  -- The copies that are there already all lead to the same exit.
  have hcopies : ∀ n k m₁, Adds m m₁ (fun ps qs => ∃ j, j ≤ k ∧ Times S j ps qs) →
      Adds m (addCopies (fun m₁ => (piece m₁).addFork greedy m.start) n m₁)
        fun ps qs => ∃ j, j ≤ k + n ∧ Times S j ps qs := by
    intro n
    induction n with
    | zero => exact fun k m₁ h₁ => h₁
    | succ n ih =>
      intro k m₁ h₁
      have hone := ((h₁.trans (h m₁)).addFork greedy).congr fun _ _ => upTo_succ_iff.symm
      rw [show k + (n + 1) = k + 1 + n by omega]
      exact ih (k + 1) _ hone
  have hnone : Adds m m fun ps qs => ∃ j, j ≤ 0 ∧ Times S j ps qs := by
    refine (Adds.refl m).congr fun ps qs => ⟨fun h => ⟨0, Nat.le_refl 0, h⟩, ?_⟩
    rintro ⟨j, hj, h⟩
    obtain rfl := Nat.le_zero.1 hj
    exact h
  have hall := hcopies n 0 m hnone
  rwa [Nat.zero_add] at hall

section

variable {greedy : Bool} {node : Node}

theorem size_closeLoop (m : Machine) (fork : Nat) (greedy : Bool) (exit : Nat) :
    (m.closeLoop fork greedy exit).nodes.size = m.nodes.size :=
  Array.size_setIfInBounds

/-- In a loop that is closed the fork leads into it or out of it, and the rest is as before. -/
theorem AgreesFrom.of_closeLoop {nodes : Array Node} (h : Adds (m.add node) m₁ S)
    (hnodes : (m₁.closeLoop m.nodes.size greedy m.start).AgreesFrom m.nodes.size nodes) :
    (nodes[m.nodes.size]? = some (.fork m₁.start m.start) ∨ nodes[m.nodes.size]? = some (.fork m.start m₁.start)) ∧
      m₁.AgreesFrom (m.add node).nodes.size nodes := by
  have hfork : m.nodes.size < m₁.nodes.size := Nat.lt_of_lt_of_le (by simp) h.size_le
  constructor
  · rw [hnodes _ (Nat.le_refl _) (by rwa [size_closeLoop])]
    show (m₁.nodes.setIfInBounds _ _)[_]? = _ ∨ (m₁.nodes.setIfInBounds _ _)[_]? = _
    rw [Array.getElem?_setIfInBounds_self_of_lt hfork]
    cases greedy <;> simp
  · intro k hk hlt
    rw [size_add] at hk
    rw [hnodes k (Nat.le_of_succ_le hk) (by rwa [size_closeLoop])]
    exact Array.getElem?_setIfInBounds_ne (by omega)

theorem size_le_closeLoop (h : Adds (m.add node) m₁ S) :
    m.nodes.size ≤ (m₁.closeLoop m.nodes.size greedy m.start).nodes.size := by
  have hle := h.size_le
  rw [size_add] at hle
  rw [size_closeLoop]
  omega

theorem getElem?_closeLoop (h : Adds (m.add node) m₁ S) {k : Nat} (hk : k < m.nodes.size) :
    (m₁.closeLoop m.nodes.size greedy m.start).nodes[k]? = m.nodes[k]? := by
  show (m₁.nodes.setIfInBounds _ _)[k]? = _
  rw [Array.getElem?_setIfInBounds_ne (Nat.ne_of_gt hk), h.kept k (by simp; omega), getElem?_add_of_lt m node hk]

theorem goesOn_closeLoop (h : Adds (m.add node) m₁ S) (k : Nat) (hk : m.nodes.size ≤ k) :
    (m₁.closeLoop m.nodes.size greedy m.start).nodes[k]? ≠ some .accept := by
  have hfork : m.nodes.size < m₁.nodes.size := Nat.lt_of_lt_of_le (by simp) h.size_le
  show (m₁.nodes.setIfInBounds _ _)[k]? ≠ _
  rcases Nat.eq_or_lt_of_le hk with rfl | hk
  · rw [Array.getElem?_setIfInBounds_self_of_lt hfork]
    cases greedy <;> exact nofun
  · rw [Array.getElem?_setIfInBounds_ne (Nat.ne_of_lt hk)]
    exact h.goesOn k (by rwa [size_add])

/-- From its fork the walk goes through a loop any number of times. -/
theorem adds_loopFork (h : Adds (m.add node) m₁ S) :
    Adds m ((m₁.closeLoop m.nodes.size greedy m.start).restart m.nodes.size) (AnyTimes S) where
  size_le := size_le_closeLoop h
  kept _ hk := getElem?_closeLoop h hk
  goesOn := goesOn_closeLoop h
  complete nodes hnodes ps qs := by
    obtain ⟨hfork, hnodes⟩ := AgreesFrom.of_closeLoop h hnodes
    rintro ⟨n, hn⟩
    induction n generalizing ps with
    | zero =>
      obtain rfl : ps = qs := hn
      exact ⟨1, _, (goes_fork_iff hfork).2 (.inr rfl), rfl⟩
    | succ n ih =>
      obtain ⟨rs, hS, hn⟩ := hn
      obtain ⟨n₁, hwalk₁⟩ := h.complete nodes hnodes ps rs hS
      obtain ⟨n₂, hwalk₂⟩ := ih rs hn
      exact ⟨n₁ + n₂ + 1, _, (goes_fork_iff hfork).2 (.inl rfl), hwalk₁.trans hwalk₂⟩
  sound nodes hnodes n ps k qs hk hwalk := by
    obtain ⟨hfork, hnodes⟩ := AgreesFrom.of_closeLoop h hnodes
    -- Every round through the loop is shorter than the walk that is left.
    induction n using Nat.strongRecOn generalizing ps with
    | ind n ih =>
      obtain ⟨n', y, rfl, hgoes, hwalk⟩ := exists_goes hwalk (Nat.ne_of_lt hk)
      rcases (goes_fork_iff hfork).1 hgoes with rfl | rfl
      · obtain ⟨rs, n₁, hle₁, hS, hwalk⟩ := h.sound nodes hnodes n' ps k qs (by simp; omega) hwalk
        obtain ⟨rs', n₂, hle₂, ⟨j, hj⟩, hwalk⟩ := ih n₁ (by omega) rs hwalk
        exact ⟨rs', n₂, by omega, ⟨j + 1, rs, hS, hj⟩, hwalk⟩
      · exact ⟨ps, n', by omega, ⟨0, rfl⟩, hwalk⟩

/-- From its start the walk goes through a loop once at least. -/
theorem adds_closeLoop (h : Adds (m.add node) m₁ S) :
    Adds m (m₁.closeLoop m.nodes.size greedy m.start) (Relation.Comp S (AnyTimes S)) where
  size_le := size_le_closeLoop h
  kept _ hk := getElem?_closeLoop h hk
  goesOn := goesOn_closeLoop h
  complete nodes hnodes ps qs := by
    rintro ⟨rs, hS, hany⟩
    obtain ⟨n₁, hwalk₁⟩ := h.complete nodes (AgreesFrom.of_closeLoop h hnodes).2 ps rs hS
    obtain ⟨n₂, hwalk₂⟩ := (adds_loopFork h).complete nodes hnodes rs qs hany
    exact ⟨n₁ + n₂, hwalk₁.trans hwalk₂⟩
  sound nodes hnodes n ps k qs hk hwalk := by
    obtain ⟨rs, n₁, hle₁, hS, hwalk⟩ :=
      h.sound nodes (AgreesFrom.of_closeLoop h hnodes).2 n ps k qs (by simp; omega) hwalk
    obtain ⟨rs', n₂, hle₂, hany, hwalk⟩ := (adds_loopFork h).sound nodes hnodes n₁ rs k qs hk hwalk
    exact ⟨rs', n₂, by omega, ⟨rs, hS, hany⟩, hwalk⟩

end

theorem adds_addLoop {piece : Machine → Machine} (h : ∀ m, Adds m (piece m) S) (greedy : Bool) (m : Machine) :
    Adds m (addLoop piece greedy m).2 (Relation.Comp S (AnyTimes S)) :=
  adds_closeLoop (h (m.add (.fork m.start m.start)))

theorem adds_addStar {piece : Machine → Machine} (h : ∀ m, Adds m (piece m) S) (takesSome greedy : Bool)
    (m : Machine) : Adds m (addStar piece takesSome greedy m) (AnyTimes S) := by
  cases takesSome with
  | true => exact adds_loopFork (h (m.add (.fork m.start m.start)))
  | false => exact ((adds_addLoop h greedy m).addFork greedy).congr fun _ _ => anyTimes_iff.symm

/-! ### Patterns -/

/-- What is added for a pattern spans what the pattern spans. -/
theorem adds_addPattern (p : Pattern) (m : Machine) : Adds m (addPattern p m) p.Spans := by
  induction p generalizing m with
  | empty => exact .refl m
  | one s => exact adds_take m s
  | holds a => exact adds_ask m a
  | group p ih => exact ih m
  | sequence p q ihp ihq => exact (ihq m).trans (ihp _)
  | either p q ihp ihq =>
    have hsecond := ihq m
    have hfirst := ihp ((addPattern q m).restart m.start)
    -- The second alternative is added first, and both go on where the machine started before.
    have hboth : Adds m (addPattern p ((addPattern q m).restart m.start)) p.Spans := by
      refine (hsecond.exit.trans hfirst).congr fun ps qs => ?_
      simp [Relation.Comp]
    exact Adds.fork (a := (addPattern p _).start) hboth (hsecond.restart hfirst) (.inl rfl)
  | repeated p least most greedy ih =>
    -- Behind the copies that must match stand those that may, as many as the bound allows or in a loop.
    cases most with
    | some most =>
      refine ((adds_addOptional ih greedy (most - least) m).trans (adds_addCopies ih least _)).congr fun ps qs => ?_
      constructor
      · rintro ⟨rs, hleast, j, hj, hmore⟩
        exact ⟨least + j, Nat.le_add_right _ _, by simp; omega, hleast.trans hmore⟩
      · rintro ⟨n, hn, hmost, h⟩
        obtain ⟨j, rfl⟩ := Nat.exists_eq_add_of_le hn
        have hmost : least + j ≤ max least most := hmost most rfl
        obtain ⟨rs, hleast, hmore⟩ := Times.add_iff.1 h
        exact ⟨rs, hleast, j, by omega, hmore⟩
    | none =>
      cases least with
      | zero =>
        refine (adds_addStar ih p.takesSome greedy m).congr fun ps qs => ?_
        exact ⟨fun ⟨n, h⟩ => ⟨n, Nat.zero_le n, by simp, h⟩, fun ⟨n, _, _, h⟩ => ⟨n, h⟩⟩
      | succ more =>
        refine ((adds_addLoop ih greedy m).trans (adds_addCopies ih more _)).congr fun ps qs => ?_
        constructor
        · rintro ⟨rs, hmore, ts, hone, n, hany⟩
          exact ⟨more + (n + 1), by omega, by simp, hmore.trans ⟨ts, hone, hany⟩⟩
        · rintro ⟨n, hn, -, h⟩
          obtain ⟨j, rfl⟩ := Nat.exists_eq_add_of_le hn
          rw [Nat.add_assoc, Nat.add_comm 1] at h
          obtain ⟨rs, hmore, ts, hone, hany⟩ := Times.add_iff.1 h
          exact ⟨rs, hmore, ts, hone, j, hany⟩

theorem ofPattern_accepts_iff {p : Pattern} {k : Nat} : (ofPattern p).accepts k = true ↔ k = 0 := by
  have h := adds_addPattern p ⟨#[.accept], 0⟩
  unfold accepts
  constructor
  · intro haccepts
    split at haccepts
    · rename_i hnode
      exact Nat.lt_one_iff.1 (Nat.lt_of_not_le fun hk => h.goesOn k hk hnode)
    · cases haccepts
  · rintro rfl
    have haccept : (ofPattern p).nodes[0]? = some .accept := h.kept 0 (by simp)
    rw [haccept]

/-- A walk through the machine of a pattern ends exactly behind what the pattern spans. -/
theorem walk_ofPattern_iff {p : Pattern} {ps qs : List Place} :
    (∃ n, Walk (ofPattern p).nodes n ((ofPattern p).start, ps) (0, qs)) ↔ p.Spans ps qs := by
  have h := adds_addPattern p ⟨#[.accept], 0⟩
  have hnodes : (ofPattern p).AgreesFrom (#[Node.accept] : Array Node).size (ofPattern p).nodes := fun _ _ _ => rfl
  constructor
  · rintro ⟨n, hwalk⟩
    obtain ⟨rs, n', -, hS, hwalk⟩ := h.sound _ hnodes n ps 0 qs (by simp) hwalk
    -- No step leads on from the node at which a match ends.
    have haccept : (ofPattern p).nodes[0]? = some .accept := h.kept 0 (by simp)
    cases n' with
    | zero =>
      obtain rfl : rs = qs := congrArg Prod.snd hwalk
      exact hS
    | succ n' =>
      obtain ⟨y, hgoes, -⟩ := hwalk
      cases hgoes with
      | take hnode => cases haccept.symm.trans hnode
      | ask hnode => cases haccept.symm.trans hnode
      | fork hnode => cases haccept.symm.trans hnode
  · exact h.complete _ hnodes ps qs

end Machine

end TextAnalysis
