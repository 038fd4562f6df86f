/-
# Dictionaries with an index

A dictionary in two parts has its entries in a list, and a map from their keys to their places in the list. To look a
key up or to add an entry, the map is asked for the place. A place outside of the list would stop either of them, but
after any changes the map has the place of every key and nothing else. So the two parts together are a dictionary: its
entries stand in the order in which their keys were first added, and a key leads to the entry that was added last.
-/
import Std.Data.HashMap.Lemmas
import Mathlib.Data.Finset.Card
import TextAnalysis.Proofs.Dictionaries.Keys
import TextAnalysis.Proofs.Outcomes

namespace TextAnalysis

variable {α : Type}

/-! ## Changes -/

namespace Dictionary

/-- A change of a dictionary: an entry is added, or several are. -/
inductive Change (α : Type) where
  | add (e : Entry α)
  | extend (es : List (Entry α))

/-- The entries that a change adds, in order. -/
def Change.entries : Change α → List (Entry α)
  | add e => [e]
  | extend es => es

/-- A dictionary after a change. -/
def apply (d : Dictionary α) : Change α → Dictionary α
  | .add e => d.add e
  | .extend es => d.extend es

/-- The dictionary after changes, which starts without entries. -/
def run (cs : List (Change α)) : Dictionary α :=
  cs.foldl apply {}

/-- The entries that changes add, in order. -/
def added (cs : List (Change α)) : List (Entry α) :=
  cs.flatMap Change.entries

/-- It makes no difference in which changes the entries were added. -/
theorem run_eq_ofList (cs : List (Change α)) : run cs = ofList (added cs) := by
  have hchange : (apply : Dictionary α → Change α → Dictionary α) = fun d c => c.entries.foldl add d := by
    funext d c
    cases c with
    | add e => rfl
    | extend es => rfl
  unfold run ofList extend added
  rw [List.foldl_flatMap, hchange]

end Dictionary

/-! ## Two parts -/

/-- A place that is not one of a list of entries. -/
structure Astray where
  place : Nat

/-- The entries of a dictionary, and the places of their keys, whatever the function is that hashes a key. -/
structure IndexedDictionary (α : Type) [Hashable Text] where
  entries : List (Entry α) := []
  index : Std.HashMap Text Nat := ∅

namespace IndexedDictionary

open Dictionary (Change Placed added place? putEntry lastAdded)

variable [Hashable Text] {d : IndexedDictionary α}

/-- The number of entries. -/
def size (d : IndexedDictionary α) : Nat :=
  d.entries.length

/-- The entry at the place of a key. -/
def lookup (d : IndexedDictionary α) (key : Text) : Except Astray (Option (Entry α)) :=
  match d.index[key]? with
  | none => .ok none
  | some i =>
    match d.entries[i]? with
    | some e => .ok (some e)
    | none => .error ⟨i⟩

/-- Puts an entry at the place of its key. The entry that was there is handed out. A key without a place gets the next
one. -/
def add (d : IndexedDictionary α) (e : Entry α) : Except Astray (Option (Entry α) × IndexedDictionary α) :=
  match d.index[e.key]? with
  | none => .ok (none, { entries := d.entries ++ [e], index := d.index.insert e.key d.entries.length })
  | some i =>
    match d.entries[i]? with
    | some old => .ok (some old, { d with entries := d.entries.set i e })
    | none => .error ⟨i⟩

/-- Adds an entry and forgets the one that was there. -/
def put (d : IndexedDictionary α) (e : Entry α) : Except Astray (IndexedDictionary α) :=
  (d.add e).map (·.2)

/-- Makes a change. -/
def apply (d : IndexedDictionary α) : Change α → Except Astray (IndexedDictionary α)
  | .add e => d.put e
  | .extend es => es.foldlM put d

/-- Makes changes, from no entries. -/
def run (cs : List (Change α)) : Except Astray (IndexedDictionary α) :=
  cs.foldlM apply {}

theorem run_concat (cs : List (Change α)) (c : Change α) : run (cs ++ [c]) = run cs >>= fun d => d.apply c := by
  unfold run
  rw [List.foldlM_append]
  refine bind_congr fun d => ?_
  rw [List.foldlM_cons]
  exact bind_pure _

/-! ## Keeping the parts in step -/

/-- The map has the place of every key, and nothing else. -/
def InStep (d : IndexedDictionary α) : Prop :=
  ∀ key, d.index[key]? = place? d.entries key

theorem inStep_empty : InStep ({} : IndexedDictionary α) :=
  fun _ => Std.HashMap.getElem?_empty

/-- Where the parts are in step, the entry with a key is found. -/
theorem InStep.lookup (h : d.InStep) (key : Text) : d.lookup key = .ok (d.entries.find? (·.key == key)) := by
  unfold IndexedDictionary.lookup
  rw [h key]
  cases hplace : place? d.entries key with
  | none => rw [Dictionary.find?_eq_none_of_place? hplace]
  | some i =>
    obtain ⟨e, he, -, hfind⟩ := Dictionary.getElem?_of_place? hplace
    rw [hfind]
    dsimp only
    rw [he]

/-- An addition succeeds, hands out the entry with the same key, and keeps the parts in step. -/
theorem InStep.add (h : d.InStep) (e : Entry α) :
    ∃ next, d.add e = .ok (d.entries.find? (·.key == e.key), next) ∧ next.entries = putEntry e d.entries ∧
      next.InStep := by
  unfold IndexedDictionary.add
  rw [h e.key]
  -- A new key gets the place at the end. A known one keeps its place, where the entry is exchanged.
  cases hplace : place? d.entries e.key with
  | none =>
    have hnew := Dictionary.place?_eq_none_iff.1 hplace
    rw [Dictionary.find?_eq_none_of_place? hplace]
    refine ⟨_, rfl, (Dictionary.putEntry_of_not_mem hnew).symm, fun key => ?_⟩
    dsimp only
    rw [Std.HashMap.getElem?_insert, h key, Dictionary.place?_concat hnew]
    simp only [beq_iff_eq]
  | some i =>
    obtain ⟨old, hold, hkey, hfind⟩ := Dictionary.getElem?_of_place? hplace
    rw [hfind]
    dsimp only
    rw [hold]
    refine ⟨_, rfl, (Dictionary.putEntry_of_place? hplace).symm, fun key => ?_⟩
    dsimp only
    rw [h key, Dictionary.place?_set hold hkey]

/-- Additions keep the parts in step, and leave the entries of the dictionary with the same additions. -/
theorem InStep.foldlM_put (h : d.InStep) (es : List (Entry α)) :
    ∃ last, es.foldlM put d = .ok last ∧ last.entries = (Dictionary.extend ⟨d.entries⟩ es).entries ∧ last.InStep := by
  induction es generalizing d with
  | nil => exact ⟨d, rfl, rfl, h⟩
  | cons e es ih =>
    obtain ⟨next, hnext, hentries, hstep⟩ := h.add e
    obtain ⟨last, hlast, hrest⟩ := ih hstep
    have hput : d.put e = .ok next := by
      unfold put
      rw [hnext]
      rfl
    refine ⟨last, by rw [List.foldlM_cons, hput, ok_bind, hlast], ?_⟩
    rwa [hentries] at hrest

/-- Changes succeed, keep the parts in step, and leave the entries of a dictionary. -/
theorem exists_run (cs : List (Change α)) :
    ∃ d, run cs = .ok d ∧ d.entries = (Dictionary.run cs).entries ∧ d.InStep := by
  have hchanges : run cs = (added cs).foldlM put {} := by
    refine foldlM_eq_flatMap (fun c _ d => ?_) ({} : IndexedDictionary α)
    cases c with
    | add e => exact (bind_pure _).symm
    | extend es => rfl
  rw [hchanges, Dictionary.run_eq_ofList]
  exact inStep_empty.foldlM_put (added cs)

/-! ## Entries in order -/

/-- A dictionary in two parts has what some additions leave: every key once, in the order in which the keys were first
added, with the entry that was added last. Its map leads from the key of each entry to its place, and from no other key
anywhere. -/
structure Holds (d : IndexedDictionary α) (added : List (Entry α)) : Prop where
  place_iff : ∀ key i, d.index[key]? = some i ↔ ∃ e : Entry α, d.entries[i]? = some e ∧ e.key = key
  nodup : (d.entries.map (·.key)).Nodup
  order : (d.entries.map (·.key)).Pairwise fun key key' =>
    (added.map (·.key)).idxOf key < (added.map (·.key)).idxOf key'
  lookup_eq : ∀ key, d.lookup key = .ok (lastAdded added key)
  size_eq : d.size = (added.map (·.key)).toFinset.card

/-- Parts in step hold what the additions leave of which they have the entries. -/
theorem InStep.holds (h : d.InStep) {es : List (Entry α)} (hentries : d.entries = (Dictionary.ofList es).entries) :
    d.Holds es := by
  have hnodup : (d.entries.map (·.key)).Nodup := by
    rw [hentries]
    exact Dictionary.nodup_keys_ofList es
  constructor
  · intro key i
    rw [h key]
    exact Dictionary.place?_eq_some_iff hnodup
  · exact hnodup
  · rw [hentries]
    exact Dictionary.pairwise_keys_ofList es
  · intro key
    rw [h.lookup, hentries]
    exact congrArg Except.ok (Dictionary.lookup?_ofList es key)
  · -- The entries have different keys, so there are as many as keys that were added.
    have hkeys : (d.entries.map (·.key)).toFinset = (es.map (·.key)).toFinset := by
      ext key
      rw [List.mem_toFinset, List.mem_toFinset, hentries]
      exact Dictionary.mem_keys_ofList
    rw [← hkeys, List.toFinset_card_of_nodup hnodup, List.length_map]
    rfl

/-- **Dictionaries in two parts.** Any changes of a dictionary in two parts succeed. They leave the entries of the
dictionary with the same changes, and hold what the additions leave: different keys in the order of their first
additions, each with its place and with the entry that was added last. There is no such entry exactly if the key was
never added. One more addition hands out the entry that was added last with the same key, which it takes the place of,
or else it comes at the end. -/
theorem run_holds (cs : List (Change α)) :
    ∃ d, run cs = .ok d ∧ d.entries = (Dictionary.run cs).entries ∧ d.Holds (added cs) ∧
      (∀ key, (Dictionary.run cs).lookup? key = lastAdded (added cs) key ∧
        (lastAdded (added cs) key = none ↔ ∀ e ∈ added cs, e.key ≠ key)) ∧
      ∀ e, ∃ next, d.add e = .ok (lastAdded (added cs) e.key, next) ∧ run (cs ++ [.add e]) = .ok next ∧
        Placed d.entries e (lastAdded (added cs) e.key) next.entries := by
  obtain ⟨d, hrun, hentries, hstep⟩ := exists_run cs
  have hlookup : ∀ key, (Dictionary.run cs).lookup? key = lastAdded (added cs) key := by
    intro key
    rw [Dictionary.run_eq_ofList, Dictionary.lookup?_ofList]
  refine ⟨d, hrun, hentries, ?_, fun key => ⟨hlookup key, Dictionary.lastAdded_eq_none_iff⟩, fun e => ?_⟩
  · rw [Dictionary.run_eq_ofList] at hentries
    exact hstep.holds hentries
  · obtain ⟨next, hnext, hput, -⟩ := hstep.add e
    have hfind : d.entries.find? (·.key == e.key) = lastAdded (added cs) e.key := by
      rw [hentries]
      exact hlookup e.key
    rw [← hfind]
    refine ⟨next, hnext, ?_, ?_⟩
    · rw [run_concat, hrun, ok_bind]
      show (d.add e).map (·.2) = _
      rw [hnext]
      rfl
    · rw [hput]
      exact Dictionary.placed_putEntry d.entries e

example : (Dictionary.run [.extend [⟨"one".toList, 1, none⟩, ⟨"two".toList, 2, none⟩],
    .add ⟨"one".toList, 11, none⟩]).entries = [⟨"one".toList, 11, none⟩, ⟨"two".toList, 2, none⟩] := by decide

end IndexedDictionary

end TextAnalysis
