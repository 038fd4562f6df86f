/-
# Searching for matches

A search holds, at every place of a text, the nodes of a machine that it has reached, each once. These are all nodes at
which a walk can rest there. So a match is found at a place exactly if the pattern spans something from that place on,
and a text has a match exactly if the pattern matches a part of it. What is found along a text are matches, and every
other match starts inside of one of them.
-/
import Mathlib.Data.List.TakeWhile
import Mathlib.Tactic.Push
import TextAnalysis.Pattern.Engine
import TextAnalysis.Proofs.Patterns.Machines

namespace TextAnalysis.Machine

/-! ## Nodes at one place -/

/-- A node leads to another one at a place, without taking a character. -/
def Leads (m : Machine) (place : Place) (k next : Nat) : Prop :=
  ∃ node, m.nodes[k]? = some node ∧ next ∈ node.followers place

/-- A machine rests at a node. -/
def Rests (m : Machine) (k : Nat) : Prop :=
  ∃ node, m.nodes[k]? = some node ∧ node.isResting = true

variable {m : Machine} {place : Place}

/-- What is reached can be reached. -/
theorem of_mem_spread {pending : List Nat} {seen : Array Bool} {reached : Array Nat} {k : Nat}
    (h : k ∈ m.spread place pending seen reached) :
    k ∈ reached ∨ m.Rests k ∧ ∃ start ∈ pending, Relation.ReflTransGen (m.Leads place) start k := by
  fun_induction spread m place pending seen reached with
  | case1 seen reached => exact .inl h
  | case2 seen reached first pending _ _ node hnode ih =>
    rcases ih h with hreached | ⟨hrests, start, hstart, hreach⟩
    · -- The node itself has been added only if it rests.
      split at hreached
      · rename_i hresting
        rcases Array.mem_push.1 hreached with hreached | rfl
        · exact .inl hreached
        · exact .inr ⟨⟨node, hnode, hresting⟩, _, List.mem_cons_self .., .refl⟩
      · exact .inl hreached
    · refine .inr ⟨hrests, ?_⟩
      rcases List.mem_append.1 hstart with hstart | hstart
      · exact ⟨first, List.mem_cons_self .., .head ⟨node, hnode, hstart⟩ hreach⟩
      · exact ⟨start, List.mem_cons_of_mem _ hstart, hreach⟩
  | case3 seen reached first pending _ _ _ ih =>
    rcases ih h with hreached | ⟨hrests, start, hstart, hreach⟩
    · exact .inl hreached
    · exact .inr ⟨hrests, start, List.mem_cons_of_mem _ hstart, hreach⟩
  | case4 seen reached first pending _ ih =>
    rcases ih h with hreached | ⟨hrests, start, hstart, hreach⟩
    · exact .inl hreached
    · exact .inr ⟨hrests, start, List.mem_cons_of_mem _ hstart, hreach⟩

/-- A node that is seen already, or is to be, or is none at all. -/
def Met (m : Machine) (pending : List Nat) (seen : Array Bool) (k : Nat) : Prop :=
  seen[k]? = some true ∨ k ∈ pending ∨ m.nodes[k]? = none

/-- Nodes that are seen have been reached if the machine rests at them, and what they lead to is met. -/
def Covered (m : Machine) (place : Place) (pending : List Nat) (seen : Array Bool) (reached : Array Nat) : Prop :=
  ∀ k, seen[k]? = some true → (m.Rests k → k ∈ reached) ∧ ∀ next, m.Leads place k next → m.Met pending seen next

/-- A node that is met stays so when the first one to be seen has been. -/
theorem Met.next {first : Nat} {pending pending' : List Nat} {seen : Array Bool} {k : Nat}
    (hfirst : seen[first]? = some false) (hpending : ∀ k ∈ pending, k ∈ pending')
    (h : m.Met (first :: pending) seen k) : m.Met pending' (seen.setIfInBounds first true) k := by
  by_cases hk : k = first
  · subst hk
    have hlt := (Array.getElem?_eq_some_iff.1 hfirst).1
    exact .inl (Array.getElem?_setIfInBounds_self_of_lt hlt)
  · rcases h with h | h | h
    · exact .inl ((Array.getElem?_setIfInBounds_ne (Ne.symm hk)).trans h)
    · exact .inr (.inl (hpending k ((List.mem_cons.1 h).resolve_left hk)))
    · exact .inr (.inr h)

theorem getElem?_of_setIfInBounds {seen : Array Bool} {first k : Nat} (hk : k ≠ first)
    (h : (seen.setIfInBounds first true)[k]? = some true) : seen[k]? = some true := by
  rwa [Array.getElem?_setIfInBounds_ne (Ne.symm hk)] at h

/-- A node that is met stays so when the first one to be seen has been seen before, or is none. -/
theorem Met.drop {first : Nat} {pending : List Nat} {seen : Array Bool} {k : Nat} (hsize : seen.size = m.nodes.size)
    (hfirst : ¬ seen[first]? = some false) (h : m.Met (first :: pending) seen k) : m.Met pending seen k := by
  rcases h with h | h | h
  · exact .inl h
  · rcases List.mem_cons.1 h with rfl | h
    · cases hseen : seen[k]? with
      | none =>
        rw [Array.getElem?_eq_none_iff, hsize] at hseen
        exact .inr (.inr (Array.getElem?_eq_none hseen))
      | some b =>
        cases b with
        | true => exact .inl hseen
        | false => exact absurd hseen hfirst
    · exact .inr (.inl h)
  · exact .inr (.inr h)

/-- All that can be reached is reached. -/
theorem mem_spread {pending : List Nat} {seen : Array Bool} {reached : Array Nat} (hsize : seen.size = m.nodes.size)
    (hcovered : m.Covered place pending seen reached) {start k : Nat} (hstart : m.Met pending seen start)
    (hreach : Relation.ReflTransGen (m.Leads place) start k) (hrests : m.Rests k) :
    k ∈ m.spread place pending seen reached := by
  fun_induction spread m place pending seen reached with
  | case1 seen reached =>
    -- No node is left to be seen, so those that are seen lead to nothing else.
    induction hreach using Relation.ReflTransGen.head_induction_on with
    | refl =>
      rcases hstart with hseen | hpending | hnone
      · exact (hcovered k hseen).1 hrests
      · cases hpending
      · obtain ⟨node, hnode, -⟩ := hrests
        cases hnone.symm.trans hnode
    | head hleads _ ih =>
      rcases hstart with hseen | hpending | hnone
      · exact ih ((hcovered _ hseen).2 _ hleads)
      · cases hpending
      · obtain ⟨node, hnode, -⟩ := hleads
        cases hnone.symm.trans hnode
  | case2 seen reached first pending hfirst _ node hnode ih =>
    refine ih (by rwa [Array.size_setIfInBounds]) ?_ (hstart.next hfirst fun k hk => List.mem_append_right _ hk)
    intro k' hk'
    by_cases hsame : k' = first
    · subst hsame
      constructor
      · rintro ⟨node', hnode', hresting⟩
        obtain rfl := Option.some.inj (hnode'.symm.trans hnode)
        rw [dif_pos hresting]
        exact Array.mem_push_self
      · rintro next ⟨node', hnode', hnext⟩
        obtain rfl := Option.some.inj (hnode'.symm.trans hnode)
        exact .inr (.inl (List.mem_append_left _ hnext))
    · obtain ⟨hreached, hleads⟩ := hcovered k' (getElem?_of_setIfInBounds hsame hk')
      refine ⟨fun h => ?_, fun next h => (hleads next h).next hfirst fun k hk => List.mem_append_right _ hk⟩
      split
      · exact Array.mem_push_of_mem _ (hreached h)
      · exact hreached h
  | case3 seen reached first pending hfirst _ hnone ih =>
    refine ih (by rwa [Array.size_setIfInBounds]) ?_ (hstart.next hfirst fun _ => id)
    intro k' hk'
    by_cases hsame : k' = first
    · subst hsame
      constructor
      · rintro ⟨node, hnode, -⟩
        cases hnone.symm.trans hnode
      · rintro next ⟨node, hnode, -⟩
        cases hnone.symm.trans hnode
    · obtain ⟨hreached, hleads⟩ := hcovered k' (getElem?_of_setIfInBounds hsame hk')
      exact ⟨hreached, fun next h => (hleads next h).next hfirst fun _ => id⟩
  | case4 seen reached first pending hfirst ih =>
    refine ih hsize (fun k' hk' => ?_) (hstart.drop hsize hfirst)
    obtain ⟨hreached, hleads⟩ := hcovered k' hk'
    exact ⟨hreached, fun next h => (hleads next h).drop hsize hfirst⟩

/-- What is reached at a place are the nodes at which the machine rests that can be reached. -/
theorem mem_reachedAt_iff {pending : List Nat} {k : Nat} : k ∈ m.reachedAt place pending ↔
    m.Rests k ∧ ∃ start ∈ pending, Relation.ReflTransGen (m.Leads place) start k := by
  have hunseen : ∀ j : Nat, ¬ (Array.replicate m.nodes.size false)[j]? = some true := by
    intro j h
    rw [Array.getElem?_replicate] at h
    split at h <;> cases h
  constructor
  · intro h
    exact (of_mem_spread h).resolve_left (Array.not_mem_empty k)
  · rintro ⟨hrests, start, hstart, hreach⟩
    exact mem_spread Array.size_replicate (fun j h => absurd h (hunseen j)) (.inr (.inl hstart)) hreach hrests

/-! ## Nodes along places -/

/-- A match can be ended from a node on, behind the places in front of the ones that are left. -/
def EndsBefore (m : Machine) (k : Nat) (ps qs : List Place) : Prop :=
  qs ≠ [] ∧ ∃ n accept, m.accepts accept = true ∧ Walk m.nodes n (k, ps) (accept, qs)

/-- A match can be ended from a node on. -/
def Ends (m : Machine) (k : Nat) (ps : List Place) : Prop :=
  ∃ qs, m.EndsBefore k ps qs

theorem goes_of_leads {k next : Nat} {ps : List Place} (h : m.Leads place k next) :
    Goes m.nodes (k, place :: ps) (next, place :: ps) := by
  obtain ⟨node, hnode, hnext⟩ := h
  cases node with
  | accept => cases hnext
  | take s target => cases hnext
  | ask a target =>
    simp only [Node.followers] at hnext
    split at hnext
    · rename_i ha
      rw [List.mem_singleton.1 hnext]
      exact .ask hnode ha
    · cases hnext
  | fork first second => exact .fork hnode (by simpa [Node.followers] using hnext)

theorem walk_of_reflTransGen {start k : Nat} (h : Relation.ReflTransGen (m.Leads place) start k) (ps : List Place) :
    ∃ n, Walk m.nodes n (start, place :: ps) (k, place :: ps) := by
  induction h using Relation.ReflTransGen.head_induction_on with
  | refl => exact ⟨0, rfl⟩
  | head hleads _ ih =>
    obtain ⟨n, hwalk⟩ := ih
    exact ⟨n + 1, _, goes_of_leads hleads, hwalk⟩

/-- A step leads on at the same place or takes its character. -/
theorem goes_cases {k : Nat} {ps : List Place} {y : Nat × List Place} (h : Goes m.nodes (k, place :: ps) y) :
    (m.Leads place k y.1 ∧ y.2 = place :: ps) ∨
      m.Rests k ∧ m.accepts k = false ∧ (∃ node, m.nodes[k]? = some node ∧ node.next? place.after = some y.1) ∧
        y.2 = ps := by
  cases h with
  | take hnode hs =>
    refine .inr ⟨⟨_, hnode, rfl⟩, ?_, ⟨_, hnode, ?_⟩, rfl⟩
    · unfold accepts
      rw [hnode]
    · exact if_pos hs
  | ask hnode ha =>
    refine .inl ⟨⟨_, hnode, ?_⟩, rfl⟩
    simp only [Node.followers, if_pos ha]
    exact List.mem_singleton.2 rfl
  | fork hnode hnext => exact .inl ⟨⟨_, hnode, by simpa [Node.followers] using hnext⟩, rfl⟩

theorem goes_of_next? {k next : Nat} {ps : List Place} (h : (m.nodes[k]?.bind (·.next? place.after)) = some next) :
    Goes m.nodes (k, place :: ps) (next, ps) := by
  obtain ⟨node, hnode, hnext⟩ := Option.bind_eq_some_iff.1 h
  unfold Node.next? at hnext
  split at hnext
  · split at hnext
    · cases hnext
      exact .take hnode ‹_›
    · cases hnext
  · cases hnext

theorem rests_of_accepts {k : Nat} (h : m.accepts k = true) : m.Rests k := by
  unfold accepts at h
  split at h
  · exact ⟨_, ‹_›, rfl⟩
  · cases h

/-- A match that is ended from a node on ends at one that is reached at the first place, or is ended from one that
follows such a node after the character there. -/
theorem endsBefore_cons_iff {start : Nat} {ps qs : List Place} : m.EndsBefore start (place :: ps) qs ↔
    ∃ j, m.Rests j ∧ Relation.ReflTransGen (m.Leads place) start j ∧ (m.accepts j = true ∧ qs = place :: ps ∨
      ∃ next, (m.nodes[j]?.bind (·.next? place.after)) = some next ∧ m.EndsBefore next ps qs) := by
  constructor
  · rintro ⟨hqs, n, accept, haccepts, hwalk⟩
    -- The walk is followed up to its first step that takes a character.
    induction n generalizing start with
    | zero =>
      cases hwalk
      exact ⟨_, rests_of_accepts haccepts, .refl, .inl ⟨haccepts, rfl⟩⟩
    | succ n ih =>
      obtain ⟨⟨next, rest⟩, hgoes, hwalk⟩ := hwalk
      rcases goes_cases hgoes with ⟨hleads, rfl⟩ | ⟨hrests, -, ⟨node, hnode, hnext⟩, rfl⟩
      · obtain ⟨j, hrests, hreach, h⟩ := ih hwalk
        exact ⟨j, hrests, .head hleads hreach, h⟩
      · refine ⟨_, hrests, .refl, .inr ⟨next, ?_, hqs, n, accept, haccepts, hwalk⟩⟩
        rw [hnode]
        exact hnext
  · rintro ⟨j, -, hreach, h⟩
    obtain ⟨n, hwalk⟩ := walk_of_reflTransGen hreach ps
    rcases h with ⟨haccepts, rfl⟩ | ⟨next, hnext, hqs, n', accept, haccepts, hwalk'⟩
    · exact ⟨List.cons_ne_nil _ _, n, j, haccepts, hwalk⟩
    · exact ⟨hqs, n + (n' + 1), accept, haccepts, hwalk.trans ⟨_, goes_of_next? hnext, hwalk'⟩⟩

/-- Behind the last place no match can be ended. -/
theorem not_ends_nil (k : Nat) : ¬ m.Ends k [] := by
  rintro ⟨qs, hqs, n, accept, -, hwalk⟩
  refine hqs ?_
  induction n generalizing k with
  | zero =>
    cases hwalk
    rfl
  | succ n ih =>
    obtain ⟨y, hgoes, hwalk⟩ := hwalk
    cases hgoes
    exact ih _ hwalk

/-! ## Ends of matches -/

/-- The nodes in front of the first one that ends a match are fewer than all if there is one. -/
theorem length_takeWhile_lt_iff {reached : Array Nat} :
    (reached.toList.takeWhile (! m.accepts ·)).length < reached.size ↔ ∃ j ∈ reached, m.accepts j = true := by
  rw [← Array.length_toList]
  constructor
  · intro hless
    by_contra hnone
    push Not at hnone
    have hself : reached.toList.takeWhile (! m.accepts ·) = reached.toList :=
      List.takeWhile_eq_self_iff.2 fun j hj => by simpa using hnone j (Array.mem_toList_iff.1 hj)
    rw [hself] at hless
    exact Nat.lt_irrefl _ hless
  · rintro ⟨j, hj, haccepts⟩
    refine Nat.lt_of_le_of_ne (List.takeWhile_prefix _).length_le fun hlength => ?_
    have hself := (List.takeWhile_prefix (! m.accepts ·)).eq_of_length hlength
    have hnone := List.takeWhile_eq_self_iff.1 hself j (Array.mem_toList_iff.2 hj)
    rw [haccepts] at hnone
    cases hnone

/-- A search along places finds an end that it had before, or one of a match that is ended from one of its nodes. -/
theorem exists_endsBefore_of_endFrom {places : List Place} {pending : List Nat} {found : Option Nat} {finish : Nat}
    (h : m.endFrom places pending found = some finish) :
    found = some finish ∨ ∃ k ∈ pending, ∃ q qs, q.index = finish ∧ m.EndsBefore k places (q :: qs) := by
  induction places generalizing pending found with
  | nil => exact .inl h
  | cons place places ih =>
    have hreached : ∀ {j}, j ∈ m.reachedAt place pending → _ := mem_reachedAt_iff.1
    -- An end at this place is that of a node that is reached here.
    have hhere : (if ((m.reachedAt place pending).toList.takeWhile (! m.accepts ·)).length <
          (m.reachedAt place pending).size then some place.index else found) = some finish →
        found = some finish ∨
          ∃ k ∈ pending, ∃ q qs, q.index = finish ∧ m.EndsBefore k (place :: places) (q :: qs) := by
      intro hfound
      split at hfound
      · rename_i hless
        obtain ⟨j, hj, haccepts⟩ := length_takeWhile_lt_iff.1 hless
        obtain ⟨hrests, k, hk, hreach⟩ := hreached hj
        exact .inr ⟨k, hk, place, places, Option.some.inj hfound,
          endsBefore_cons_iff.2 ⟨j, hrests, hreach, .inl ⟨haccepts, rfl⟩⟩⟩
      · exact .inl hfound
    unfold endFrom at h
    dsimp only at h
    split at h
    · exact hhere h
    · rcases ih h with hfound | ⟨next, hnext, q, qs, hindex, hends⟩
      · exact hhere hfound
      · obtain ⟨j, hj, hnext⟩ := List.mem_filterMap.1 hnext
        obtain ⟨hrests, k, hk, hreach⟩ :=
          hreached (Array.mem_toList_iff.1 ((List.takeWhile_prefix _).subset hj))
        exact .inr ⟨k, hk, q, qs, hindex, endsBefore_cons_iff.2 ⟨j, hrests, hreach, .inr ⟨next, hnext, hends⟩⟩⟩

/-- A search along places finds an end if it had one before or a match can be ended from one of its nodes. -/
theorem endFrom_isSome {places : List Place} {pending : List Nat} {found : Option Nat}
    (h : found.isSome = true ∨ ∃ k ∈ pending, m.Ends k places) : (m.endFrom places pending found).isSome = true := by
  induction places generalizing pending found with
  | nil =>
    refine h.resolve_right ?_
    rintro ⟨k, -, hends⟩
    exact not_ends_nil k hends
  | cons place places ih =>
    have hgo : ∀ (next : List Nat) (found' : Option Nat),
        found'.isSome = true ∨ (∃ k ∈ next, m.Ends k places) →
        (if next.isEmpty then found' else m.endFrom places next found').isSome = true := by
      intro next found' hsome
      split
      · rename_i hempty
        refine hsome.resolve_right ?_
        rintro ⟨k, hk, -⟩
        exact List.ne_nil_of_mem hk (List.isEmpty_iff.1 hempty)
      · exact ih hsome
    unfold endFrom
    dsimp only
    refine hgo _ _ ?_
    by_cases hhere : ∃ j ∈ m.reachedAt place pending, m.accepts j = true
    · rw [if_pos (length_takeWhile_lt_iff.2 hhere)]
      exact .inl rfl
    · -- The match cannot end here, so all that is reached goes on.
      rw [if_neg (mt length_takeWhile_lt_iff.1 hhere)]
      refine h.imp_right ?_
      rintro ⟨k, hk, qs, hends⟩
      obtain ⟨j, hrests, hreach, h⟩ := endsBefore_cons_iff.1 hends
      have hj := mem_reachedAt_iff.2 ⟨hrests, k, hk, hreach⟩
      push Not at hhere
      rcases h with ⟨haccepts, -⟩ | ⟨next, hnext, hends⟩
      · exact absurd haccepts (hhere j hj)
      · refine ⟨next, List.mem_filterMap.2 ⟨j, ?_, hnext⟩, qs, hends⟩
        rw [List.takeWhile_eq_self_iff.2 fun j hj => by simpa using hhere j (Array.mem_toList_iff.1 hj)]
        exact Array.mem_toList_iff.2 hj

/-- The end that is found is that of a match. -/
theorem exists_endsBefore_of_matchEnd? {places : List Place} {finish : Nat}
    (h : m.matchEnd? places = some finish) : ∃ q qs, q.index = finish ∧ m.EndsBefore m.start places (q :: qs) := by
  rcases exists_endsBefore_of_endFrom h with h | ⟨k, hk, h⟩
  · cases h
  · rwa [List.mem_singleton.1 hk] at h

theorem matchEnd?_isSome_iff {places : List Place} :
    (m.matchEnd? places).isSome = true ↔ m.Ends m.start places := by
  constructor
  · intro h
    obtain ⟨finish, h⟩ := Option.isSome_iff_exists.1 h
    obtain ⟨q, qs, -, hends⟩ := exists_endsBefore_of_matchEnd? h
    exact ⟨_, hends⟩
  · intro hends
    exact endFrom_isSome (.inr ⟨m.start, List.mem_singleton_self _, hends⟩)

/-- There is a match somewhere exactly if one starts at one of the places. -/
theorem occursFrom_iff {places : List Place} :
    m.occursFrom places = true ↔ ∃ start, start < places.length ∧ m.Ends m.start (places.drop start) := by
  induction places with
  | nil => simp [occursFrom]
  | cons place places ih =>
    unfold occursFrom
    rw [Bool.or_eq_true, matchEnd?_isSome_iff, ih]
    constructor
    · rintro (h | ⟨start, hstart, h⟩)
      · exact ⟨0, Nat.succ_pos _, h⟩
      · exact ⟨start + 1, Nat.succ_lt_succ hstart, h⟩
    · rintro ⟨_ | start, hstart, h⟩
      · exact .inl h
      · exact .inr ⟨start, Nat.lt_of_succ_lt_succ hstart, h⟩

/-- A match of a pattern can be ended exactly where the pattern spans something. -/
theorem endsBefore_ofPattern_iff {p : Pattern} {ps qs : List Place} :
    (ofPattern p).EndsBefore (ofPattern p).start ps qs ↔ qs ≠ [] ∧ p.Spans ps qs := by
  refine and_congr_right fun _ => ?_
  constructor
  · rintro ⟨n, accept, haccepts, hwalk⟩
    obtain rfl := ofPattern_accepts_iff.1 haccepts
    exact walk_ofPattern_iff.1 ⟨n, hwalk⟩
  · intro hspans
    obtain ⟨n, hwalk⟩ := walk_ofPattern_iff.2 hspans
    exact ⟨n, 0, ofPattern_accepts_iff.2 rfl, hwalk⟩

/-! ## Matches along places -/

/-- A match that is found starts at one of the places and ends where a search from there on does. -/
theorem exists_matchEnd?_of_mem {resume : Nat} {ended : Option Nat} {places : List Place} {start finish : Nat}
    (h : (start, finish) ∈ m.matchesFrom resume ended places) :
    ∃ q qs, q :: qs <:+ places ∧ q.index = start ∧ m.matchEnd? (q :: qs) = some finish := by
  fun_induction matchesFrom m resume ended places with
  | case1 => cases h
  | case2 _ _ place places _ ih | case3 _ _ place places _ _ ih | case4 _ _ place places _ _ _ _ ih =>
    obtain ⟨q, qs, hsuffix, hfound⟩ := ih h
    exact ⟨q, qs, hsuffix.trans (List.suffix_cons place places), hfound⟩
  | case5 _ _ place places _ k hend _ ih =>
    rcases List.mem_cons.1 h with heq | h
    · cases heq
      exact ⟨place, places, List.suffix_refl _, rfl, hend⟩
    · obtain ⟨q, qs, hsuffix, hfound⟩ := ih h
      exact ⟨q, qs, hsuffix.trans (List.suffix_cons place places), hfound⟩

/-- A place from which a match can be found is inside of one that is found, or at one of its ends, if the search goes on
there or in front of it and no match has just ended there. -/
theorem exists_mem_matchesFrom {resume : Nat} {ended : Option Nat} {places : List Place} {q : Place} {qs : List Place}
    (horder : places.Pairwise fun a b => a.index ≤ b.index) (hsuffix : q :: qs <:+ places)
    (hend : (m.matchEnd? (q :: qs)).isSome = true) (hresume : resume ≤ q.index) (hended : ended ≠ some q.index) :
    ∃ x ∈ m.matchesFrom resume ended places, x.1 ≤ q.index ∧ q.index ≤ x.2 := by
  fun_induction matchesFrom m resume ended places with
  | case1 => exact absurd (List.suffix_nil.1 hsuffix) (List.cons_ne_nil _ _)
  | case2 _ _ place places hless ih =>
    rcases List.suffix_cons_iff.1 hsuffix with heq | hsuffix
    · cases heq
      exact absurd hresume (Nat.not_le_of_lt hless)
    · exact ih horder.of_cons hsuffix hresume hended
  | case3 _ _ place places _ hnone ih =>
    rcases List.suffix_cons_iff.1 hsuffix with heq | hsuffix
    · cases heq
      rw [hnone] at hend
      cases hend
    · exact ih horder.of_cons hsuffix hresume hended
  | case4 _ _ place places _ k _ hempty ih =>
    rcases List.suffix_cons_iff.1 hsuffix with heq | hsuffix
    · cases heq
      obtain ⟨rfl, hended'⟩ := hempty
      exact absurd hended' hended
    · exact ih horder.of_cons hsuffix hresume hended
  | case5 _ _ place places _ k hfound _ ih =>
    have hhead : ∀ a ∈ place :: places, place.index ≤ a.index :=
      List.forall_mem_cons.2 ⟨Nat.le_refl _, fun a ha => List.rel_of_pairwise_cons horder ha⟩
    by_cases hinside : q.index ≤ k
    · exact ⟨_, List.mem_cons_self .., hhead q (hsuffix.subset (List.mem_cons_self ..)), hinside⟩
    · rcases List.suffix_cons_iff.1 hsuffix with heq | hsuffix
      · -- A match does not end in front of the place at which it starts.
        cases heq
        obtain ⟨a, ha, rfl⟩ := m.mem_of_matchEnd? hfound
        exact absurd (hhead a ha) hinside
      · obtain ⟨x, hx, hinside⟩ := ih horder.of_cons hsuffix (Nat.le_of_not_le hinside)
          fun h => hinside (Nat.le_of_eq (Option.some.inj h).symm)
        exact ⟨x, List.mem_cons_of_mem _ hx, hinside⟩

end TextAnalysis.Machine

namespace TextAnalysis

/-! ## Places of a text -/

namespace Place

theorem length_listFrom (index : Nat) (before : Option Char) (text : Text) :
    (listFrom index before text).length = text.length + 1 := by
  induction text generalizing index before with
  | nil => rfl
  | cons c rest ih => rw [listFrom, List.length_cons, ih, List.length_cons]

theorem length_list (text : Text) : (list text).length = text.length + 1 :=
  length_listFrom 0 none text

/-- The places of a text are in the order of their indices. -/
theorem pairwise_index (index : Nat) (before : Option Char) (text : Text) :
    (listFrom index before text).Pairwise fun a b => a.index ≤ b.index := by
  induction text generalizing index before with
  | nil => exact List.pairwise_singleton _ _
  | cons c rest ih =>
    exact .cons (fun b hb => Nat.le_of_succ_le (index_of_mem_listFrom hb).1) (ih (index + 1) (some c))

theorem index_of_getElem? {index : Nat} {before : Option Char} {text : Text} {k : Nat} {place : Place}
    (h : (listFrom index before text)[k]? = some place) : place.index = index + k := by
  induction text generalizing index before k with
  | nil =>
    cases k with
    | zero =>
      cases h
      rfl
    | succ k => cases h
  | cons c rest ih =>
    cases k with
    | zero =>
      cases h
      rfl
    | succ k =>
      rw [ih h]
      omega

/-- Every position of a text has its place. -/
theorem exists_place {text : Text} {k : Nat} (h : k ≤ text.length) : ∃ place, (list text)[k]? = some place := by
  have hlt : k < (list text).length := by
    rw [length_list]
    exact Nat.lt_succ_of_le h
  exact ⟨_, List.getElem?_eq_getElem hlt⟩

/-- The places from a position on start with the place of this index. -/
theorem exists_drop_eq {text : Text} {k : Nat} (h : k ≤ text.length) :
    ∃ q qs, (list text).drop k = q :: qs ∧ q.index = k := by
  obtain ⟨q, hq⟩ := exists_place h
  obtain ⟨hlt, rfl⟩ := List.getElem?_eq_some_iff.1 hq
  exact ⟨_, _, List.drop_eq_getElem_cons hlt, by rw [index_of_getElem? hq, Nat.zero_add]⟩

/-- The places behind some others are those from the index of the first one on. -/
theorem index_of_suffix {text : Text} {q : Place} {qs : List Place} (h : q :: qs <:+ list text) :
    q.index ≤ text.length ∧ q :: qs = (list text).drop q.index := by
  obtain ⟨before, h⟩ := h
  have hlength := congrArg List.length h
  rw [List.length_append, List.length_cons, length_list] at hlength
  have hdrop : (list text).drop before.length = q :: qs := by rw [← h, List.drop_left]
  have hbefore : before.length ≤ text.length := by omega
  obtain ⟨q', qs', heq, hindex⟩ := exists_drop_eq hbefore
  obtain ⟨rfl, rfl⟩ := List.cons.inj (hdrop.symm.trans heq)
  rw [hindex]
  exact ⟨hbefore, hdrop.symm⟩

end Place

namespace Pattern

/-- What is left of the places is what comes after those that a pattern takes. -/
theorem suffix_of_spans {p : Pattern} {ps qs : List Place} (h : p.Spans ps qs) : qs <:+ ps := by
  induction p generalizing ps qs with
  | empty =>
    obtain rfl : ps = qs := h
    exact List.suffix_refl ps
  | one s =>
    obtain ⟨place, rfl, -⟩ := h
    exact List.suffix_cons place qs
  | holds a =>
    obtain ⟨rfl, -⟩ := h
    exact List.suffix_refl ps
  | group p ih => exact ih h
  | sequence p q ihp ihq =>
    obtain ⟨rs, hp, hq⟩ := h
    exact (ihq hq).trans (ihp hp)
  | either p q ihp ihq =>
    rcases h with h | h
    · exact ihp h
    · exact ihq h
  | repeated p least most greedy ih =>
    obtain ⟨n, -, -, h⟩ := h
    -- A repetition takes its copies one after the other.
    induction n generalizing ps with
    | zero =>
      obtain rfl : ps = qs := h
      exact List.suffix_refl ps
    | succ n ihn =>
      obtain ⟨rs, hone, h⟩ := h
      exact (ihn h).trans (ih hone)

/-- What a pattern leaves of the places behind a position of a text are those from the end of a match on. -/
theorem spans_cons_iff {p : Pattern} {text : Text} {start : Nat} {q : Place} {qs : List Place} :
    p.Spans ((Place.list text).drop start) (q :: qs) ↔
      q :: qs <:+ Place.list text ∧ p.Matches text start q.index := by
  constructor
  · intro h
    have hsuffix := (suffix_of_spans h).trans (List.drop_suffix start _)
    obtain ⟨hle, heq⟩ := Place.index_of_suffix hsuffix
    refine ⟨hsuffix, ?_, hle, heq ▸ h⟩
    -- The places that are left are no more than those there were.
    have hlength := (suffix_of_spans h).length_le
    rw [heq, List.length_drop, List.length_drop, Place.length_list] at hlength
    omega
  · rintro ⟨hsuffix, -, -, h⟩
    rwa [(Place.index_of_suffix hsuffix).2]

/-- From a position on a search finds an end if the pattern matches from there on. -/
theorem matchEnd?_isSome_iff {p : Pattern} {text : Text} {start : Nat} :
    ((Machine.ofPattern p).matchEnd? ((Place.list text).drop start)).isSome = true ↔
      ∃ finish, p.Matches text start finish := by
  rw [Machine.matchEnd?_isSome_iff]
  constructor
  · rintro ⟨qs, hends⟩
    obtain ⟨hqs, hspans⟩ := Machine.endsBefore_ofPattern_iff.1 hends
    obtain ⟨q, qs, rfl⟩ := List.exists_cons_of_ne_nil hqs
    exact ⟨q.index, (spans_cons_iff.1 hspans).2⟩
  · rintro ⟨finish, -, hfinish, h⟩
    refine ⟨_, Machine.endsBefore_ofPattern_iff.2 ⟨?_, h⟩⟩
    rw [ne_eq, List.drop_eq_nil_iff, Place.length_list]
    omega

/-- The end that is found from a position on is that of a match. -/
theorem matches_of_matchEnd? {p : Pattern} {text : Text} {start finish : Nat}
    (h : (Machine.ofPattern p).matchEnd? ((Place.list text).drop start) = some finish) :
    p.Matches text start finish := by
  obtain ⟨q, qs, rfl, hends⟩ := Machine.exists_endsBefore_of_matchEnd? h
  exact (spans_cons_iff.1 (Machine.endsBefore_ofPattern_iff.1 hends).2).2

/-- A search finds a match exactly if the pattern matches a part of the text. -/
theorem occursIn_iff {p : Pattern} {text : Text} :
    p.occursIn text = true ↔ ∃ start finish, p.Matches text start finish := by
  unfold occursIn
  rw [Machine.occursFrom_iff]
  simp only [← Machine.matchEnd?_isSome_iff, matchEnd?_isSome_iff]
  constructor
  · rintro ⟨start, -, h⟩
    exact ⟨start, h⟩
  · rintro ⟨start, finish, h⟩
    refine ⟨start, ?_, finish, h⟩
    rw [Place.length_list]
    exact Nat.lt_succ_of_le (Nat.le_trans h.1 h.2.1)

/-- What is found in a text are matches of the pattern. -/
theorem matches_of_mem {p : Pattern} {text : Text} {start finish : Nat} (h : (start, finish) ∈ p.matchesIn text) :
    p.Matches text start finish := by
  obtain ⟨q, qs, hsuffix, rfl, hend⟩ := Machine.exists_matchEnd?_of_mem h
  rw [(Place.index_of_suffix hsuffix).2] at hend
  exact matches_of_matchEnd? hend

/-- Every match of a pattern starts inside of one that is found, or at one of its ends. -/
theorem exists_mem_matchesIn {p : Pattern} {text : Text} {start finish : Nat} (h : p.Matches text start finish) :
    ∃ x ∈ p.matchesIn text, x.1 ≤ start ∧ start ≤ x.2 := by
  obtain ⟨q, qs, hq, rfl⟩ := Place.exists_drop_eq (Nat.le_trans h.1 h.2.1)
  refine Machine.exists_mem_matchesFrom (Place.pairwise_index _ _ _) (hq ▸ List.drop_suffix _ _) ?_
    (Nat.zero_le _) nofun
  rw [← hq, matchEnd?_isSome_iff]
  exact ⟨finish, h⟩

end Pattern

end TextAnalysis
