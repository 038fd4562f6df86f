/-
# Keys of a dictionary

What an addition does to the entries of a dictionary and to their keys. The keys stand in the order in which they were
first added, none of them twice, and under every key there is the entry that was added last.
-/
import Mathlib.Data.List.Induction
import Mathlib.Data.List.Nodup
import TextAnalysis.Dictionary

namespace TextAnalysis.Dictionary

variable {α : Type} {e : Entry α} {es : List (Entry α)} {key : Text} {i : Nat}

/-! ## The place of a key -/

/-- The place of the first entry with a key. -/
def place? (es : List (Entry α)) (key : Text) : Option Nat :=
  es.findIdx? (·.key == key)

theorem place?_cons (e : Entry α) (es : List (Entry α)) (key : Text) :
    place? (e :: es) key = if e.key = key then some 0 else (place? es key).map (· + 1) := by
  unfold place?
  rw [List.findIdx?_cons]
  by_cases h : e.key = key
  · simp [h]
  · simp [h]

/-- A key has no place exactly if no entry has it. -/
theorem place?_eq_none_iff : place? es key = none ↔ key ∉ es.map (·.key) := by
  unfold place?
  rw [List.findIdx?_eq_none_iff]
  simp

/-- At the place of a key there is an entry with the key, which is the one that is looked up. -/
theorem getElem?_of_place? (h : place? es key = some i) :
    ∃ old, es[i]? = some old ∧ old.key = key ∧ es.find? (·.key == key) = some old := by
  induction es generalizing i with
  | nil => cases h
  | cons first rest ih =>
    rw [place?_cons] at h
    by_cases hkey : first.key = key
    · rw [if_pos hkey] at h
      cases h
      refine ⟨first, rfl, hkey, ?_⟩
      rw [List.find?_cons, beq_iff_eq.2 hkey]
    · rw [if_neg hkey] at h
      obtain ⟨j, hj, rfl⟩ := Option.map_eq_some_iff.1 h
      obtain ⟨old, hold, holdkey, hfind⟩ := ih hj
      refine ⟨old, hold, holdkey, ?_⟩
      rw [List.find?_cons, beq_eq_false_iff_ne.2 hkey]
      exact hfind

theorem find?_eq_none_of_place? (h : place? es key = none) : es.find? (·.key == key) = none := by
  rw [place?_eq_none_iff] at h
  refine List.find?_eq_none.2 fun old hold => ?_
  intro hkey
  exact h (List.mem_map.2 ⟨old, hold, beq_iff_eq.1 hkey⟩)

/-- Where no key is there twice, an entry stands at the place of its key. -/
theorem place?_eq_some_iff (h : (es.map (·.key)).Nodup) :
    place? es key = some i ↔ ∃ e, es[i]? = some e ∧ e.key = key := by
  constructor
  · intro hplace
    obtain ⟨old, hold, hkey, -⟩ := getElem?_of_place? hplace
    exact ⟨old, hold, hkey⟩
  · rintro ⟨e, he, rfl⟩
    cases hplace : place? es e.key with
    | none => exact absurd (List.mem_map_of_mem (List.mem_of_getElem? he)) (place?_eq_none_iff.1 hplace)
    | some j =>
      obtain ⟨old, hold, hkey, -⟩ := getElem?_of_place? hplace
      -- Both places have the key, and so they are one.
      have hkeys : (es.map (·.key))[j]? = (es.map (·.key))[i]? := by
        rw [List.getElem?_map, List.getElem?_map, hold, he, Option.map_some, Option.map_some, hkey]
      obtain ⟨hlt, -⟩ := List.getElem?_eq_some_iff.1 hold
      rw [List.getElem?_inj (by rwa [List.length_map]) h] at hkeys
      rw [hkeys]

theorem place?_concat (h : e.key ∉ es.map (·.key)) (key : Text) :
    place? (es ++ [e]) key = if e.key = key then some es.length else place? es key := by
  induction es with
  | nil => exact place?_cons e [] key
  | cons first rest ih =>
    rw [List.map_cons, List.mem_cons, not_or] at h
    rw [List.cons_append, place?_cons, place?_cons, ih h.2]
    by_cases hkey : e.key = key
    · have hne : first.key ≠ key := fun heq => h.1 (hkey.trans heq.symm)
      simp only [if_pos hkey, if_neg hne]
      rfl
    · simp only [if_neg hkey]

/-- An entry in the place of one with the same key leaves all keys where they are. -/
theorem map_key_set {old : Entry α} (hold : es[i]? = some old) (hkey : old.key = e.key) :
    (es.set i e).map (·.key) = es.map (·.key) := by
  have hsame : (es.map (·.key))[i]? = some e.key := by
    rw [List.getElem?_map, hold, Option.map_some, hkey]
  obtain ⟨hlt, hsame⟩ := List.getElem?_eq_some_iff.1 hsame
  rw [List.map_set, ← hsame, List.set_getElem_self]

theorem place?_set {old : Entry α} (hold : es[i]? = some old) (hkey : old.key = e.key) (key : Text) :
    place? (es.set i e) key = place? es key := by
  have hplace : ∀ es : List (Entry α), place? es key = (es.map (·.key)).findIdx? (· == key) := by
    intro es
    rw [List.findIdx?_map]
    rfl
  rw [hplace, hplace, map_key_set hold hkey]

/-! ## Additions -/

/-- An entry with a key that is not there yet stands at the end. -/
theorem putEntry_of_not_mem (h : e.key ∉ es.map (·.key)) : putEntry e es = es ++ [e] := by
  induction es with
  | nil => rfl
  | cons old rest ih =>
    rw [List.map_cons, List.mem_cons, not_or] at h
    rw [putEntry, if_neg (Ne.symm h.1), ih h.2, List.cons_append]

/-- An entry with a key that is there already takes the place of the old one. -/
theorem putEntry_of_place? (h : place? es e.key = some i) : putEntry e es = es.set i e := by
  induction es generalizing i with
  | nil => cases h
  | cons old rest ih =>
    rw [place?_cons] at h
    rw [putEntry]
    by_cases hkey : old.key = e.key
    · rw [if_pos hkey] at h ⊢
      cases h
      rfl
    · rw [if_neg hkey] at h ⊢
      obtain ⟨j, hj, rfl⟩ := Option.map_eq_some_iff.1 h
      rw [ih hj, List.set_cons_succ]

/-- Entries after a further one: it takes the place of another one, which is handed out, or it comes at the end. -/
inductive Placed (es : List (Entry α)) (e : Entry α) : Option (Entry α) → List (Entry α) → Prop
  | last : Placed es e none (es ++ [e])
  | instead {i : Nat} {old : Entry α} (h : es[i]? = some old) : Placed es e (some old) (es.set i e)

/-- An entry takes the place of the one with the same key. -/
theorem placed_putEntry (es : List (Entry α)) (e : Entry α) :
    Placed es e (es.find? (·.key == e.key)) (putEntry e es) := by
  cases hplace : place? es e.key with
  | none =>
    rw [find?_eq_none_of_place? hplace,
      putEntry_of_not_mem (place?_eq_none_iff.1 hplace)]
    exact .last
  | some i =>
    obtain ⟨old, hold, -, hfind⟩ := getElem?_of_place? hplace
    rw [hfind, putEntry_of_place? hplace]
    exact .instead hold

/-- The keys after an addition: a new one comes at the end. -/
theorem map_key_putEntry (e : Entry α) (es : List (Entry α)) :
    (putEntry e es).map (·.key) =
      if e.key ∈ es.map (·.key) then es.map (·.key) else es.map (·.key) ++ [e.key] := by
  cases hplace : place? es e.key with
  | none =>
    have hnew := place?_eq_none_iff.1 hplace
    rw [if_neg hnew, putEntry_of_not_mem hnew, List.map_append, List.map_singleton]
  | some i =>
    obtain ⟨old, hold, hkey, -⟩ := getElem?_of_place? hplace
    have hmem : e.key ∈ es.map (·.key) := by
      rw [← hkey]
      exact List.mem_map_of_mem (List.mem_of_getElem? hold)
    rw [if_pos hmem, putEntry_of_place? hplace, map_key_set hold hkey]

/-- After an addition the entry is found under its key, and all others as before. -/
theorem find?_putEntry (e : Entry α) (es : List (Entry α)) (key : Text) :
    (putEntry e es).find? (·.key == key) =
      if e.key = key then some e else es.find? (·.key == key) := by
  induction es with
  | nil => simp [putEntry, List.find?_singleton]
  | cons old rest ih =>
    rw [putEntry]
    by_cases hold : old.key = e.key
    · rw [if_pos hold, List.find?_cons, List.find?_cons, hold]
      by_cases hkey : e.key = key
      · rw [if_pos hkey, beq_iff_eq.2 hkey]
      · rw [if_neg hkey, beq_eq_false_iff_ne.2 hkey]
    · rw [if_neg hold, List.find?_cons, List.find?_cons, ih]
      by_cases hkey : old.key = key
      · have hne : e.key ≠ key := fun heq => hold (hkey.trans heq.symm)
        simp only [beq_iff_eq.2 hkey, if_neg hne]
      · rw [beq_eq_false_iff_ne.2 hkey]

/-- An entry with a key that is there already makes no difference to the first key with a property. -/
theorem find?_keys_putEntry (p : Text → Bool) (e : Entry α) (es : List (Entry α)) :
    ((putEntry e es).map (·.key)).find? p = (es.map (·.key) ++ [e.key]).find? p := by
  rw [map_key_putEntry]
  split
  · rename_i hmem
    rw [List.find?_append]
    cases hfind : (es.map (·.key)).find? p with
    | some found => rfl
    | none => simpa using List.find?_eq_none.1 hfind e.key hmem
  · rfl

/-! ## Dictionaries of a list of entries -/

theorem ofList_concat (es : List (Entry α)) (e : Entry α) : ofList (es ++ [e]) = (ofList es).add e :=
  List.foldl_concat ..

/-- The first key with a property is the one that was added first. -/
theorem find?_keys_ofList (p : Text → Bool) (es : List (Entry α)) :
    ((ofList es).entries.map (·.key)).find? p = (es.map (·.key)).find? p := by
  induction es using List.reverseRecOn with
  | nil => rfl
  | append_singleton es e ih =>
    rw [ofList_concat, add, find?_keys_putEntry, List.find?_append, ih, List.map_append, List.find?_append]
    rfl

theorem entries_extend {d : Dictionary α} (h : ((d.entries ++ es).map (·.key)).Nodup) :
    (d.extend es).entries = d.entries ++ es := by
  induction es generalizing d with
  | nil => exact (List.append_nil _).symm
  | cons e rest ih =>
    have hput : (d.add e).entries = d.entries ++ [e] := by
      refine putEntry_of_not_mem fun hmem => ?_
      rw [List.map_append, List.map_cons] at h
      exact List.disjoint_of_nodup_append h hmem (List.mem_cons_self ..)
    show ((d.add e).extend rest).entries = _
    rw [ih (by rwa [hput, List.append_assoc]), hput, List.append_assoc]
    rfl

/-- A list of entries with different keys makes a dictionary of just these entries. -/
theorem entries_ofList (h : (es.map (·.key)).Nodup) : (ofList es).entries = es :=
  entries_extend (d := {}) h

/-- Where no key is there twice, an entry is looked up by its key. -/
theorem lookup?_key {d : Dictionary α} (h : (d.entries.map (·.key)).Nodup) (he : e ∈ d.entries) :
    d.lookup? e.key = some e := by
  cases hlookup : d.lookup? e.key with
  | none => exact absurd (List.find?_eq_none.1 hlookup e he) (by simp)
  | some found =>
    have hkey : found.key = e.key := by simpa using List.find?_some hlookup
    rw [List.inj_on_of_nodup_map h (List.mem_of_find?_eq_some hlookup) he hkey]

/-! ## What additions leave -/

/-- The entry with a key that was added last. -/
def lastAdded (added : List (Entry α)) (key : Text) : Option (Entry α) :=
  (added.filter (·.key == key)).getLast?

/-- No entry was added last under a key exactly if none was added. -/
theorem lastAdded_eq_none_iff {added : List (Entry α)} : lastAdded added key = none ↔ ∀ e ∈ added, e.key ≠ key := by
  unfold lastAdded
  rw [List.getLast?_eq_none_iff, List.filter_eq_nil_iff]
  simp

theorem lastAdded_concat (added : List (Entry α)) (e : Entry α) (key : Text) :
    lastAdded (added ++ [e]) key = if e.key = key then some e else lastAdded added key := by
  unfold lastAdded
  rw [List.filter_append]
  by_cases h : e.key = key
  · simp [h]
  · simp [h]

/-- What is looked up is the entry that was added last. -/
theorem lookup?_ofList (added : List (Entry α)) (key : Text) :
    (ofList added).lookup? key = lastAdded added key := by
  induction added using List.reverseRecOn with
  | nil => rfl
  | append_singleton added e ih =>
    rw [ofList_concat, lastAdded_concat, ← ih]
    exact find?_putEntry e _ key

/-- The keys of a dictionary are those that were added. -/
theorem mem_keys_ofList {added : List (Entry α)} :
    key ∈ (ofList added).entries.map (·.key) ↔ key ∈ added.map (·.key) := by
  have hlookup := lookup?_ofList added key
  have hfind : (ofList added).lookup? key = none ↔ key ∉ (ofList added).entries.map (·.key) := by
    unfold lookup?
    rw [List.find?_eq_none]
    simp
  rw [← not_iff_not, ← hfind, hlookup, lastAdded_eq_none_iff]
  simp

/-- The keys of a dictionary stand in the order in which they were first added, none of them twice. -/
theorem pairwise_keys_ofList (added : List (Entry α)) :
    ((ofList added).entries.map (·.key)).Pairwise fun k k' =>
      (added.map (·.key)).idxOf k < (added.map (·.key)).idxOf k' := by
  induction added using List.reverseRecOn with
  | nil => exact .nil
  | append_singleton added e ih =>
    -- One more addition leaves the first places of the keys that are there.
    have hplaces : ∀ k ∈ (ofList added).entries.map (·.key),
        (((added ++ [e]).map (·.key)).idxOf k = (added.map (·.key)).idxOf k) := by
      intro k hk
      rw [List.map_append]
      exact List.idxOf_append_of_mem (mem_keys_ofList.1 hk)
    have hold : ((ofList added).entries.map (·.key)).Pairwise fun k k' =>
        ((added ++ [e]).map (·.key)).idxOf k < ((added ++ [e]).map (·.key)).idxOf k' := by
      refine ih.imp_of_mem fun {k k'} hk hk' hlt => ?_
      rwa [hplaces k hk, hplaces k' hk']
    rw [ofList_concat, add, map_key_putEntry]
    split
    · exact hold
    · rename_i hnew
      refine List.pairwise_append.2 ⟨hold, List.pairwise_singleton .., fun k hk k' hk' => ?_⟩
      obtain rfl := List.mem_singleton.1 hk'
      rw [hplaces k hk, List.map_append, List.idxOf_append_of_notMem (mt mem_keys_ofList.2 hnew)]
      exact Nat.lt_of_lt_of_le (List.idxOf_lt_length_of_mem (mem_keys_ofList.1 hk)) (Nat.le_add_right ..)

theorem nodup_keys_ofList (added : List (Entry α)) : ((ofList added).entries.map (·.key)).Nodup := by
  refine (pairwise_keys_ofList added).imp ?_
  rintro k _ hlt rfl
  exact Nat.lt_irrefl _ hlt

end TextAnalysis.Dictionary
