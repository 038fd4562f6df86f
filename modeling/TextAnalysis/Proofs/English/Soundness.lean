/-
# Only spelled numbers are read

If the parser reads a number from a text, then the words of the text are those of this number in their canonical form.
The order of the merges sees to it: what waits for the number before it gets this number before it takes up or
becomes part of anything else.
-/
import TextAnalysis.Proofs.English.Blocks
import TextAnalysis.Proofs.English.RoundTrip
import TextAnalysis.Proofs.Reduction.Meanings

namespace TextAnalysis.English

open Phrase

/-! ## Merging words -/

/-- Where something waits for the number before it, there is a pair whose merge gives a number to it, or to a
modifier before it. -/
theorem exists_left_of_pending {l r : List Numeral} {c a : Numeral}
    (hparts : ∀ n ∈ l ++ c :: a :: r, ∃ ws, Part ws n)
    (hfirst : ∀ n ∈ (l ++ c :: a :: r).head?, n.left = none) (hleft : a.left ≠ none) :
    ∃ l' c' a' r', l ++ c :: a :: r = l' ++ c' :: a' :: r' ∧ mergeSide c' a' = some .left ∧
      a'.value.natAbs ≤ a.value.natAbs := by
  by_cases hmod : c.isModifier = true
  · -- Modifiers stand in a row at most, behind a number, since the first value waits for nothing.
    obtain ⟨ws, hc⟩ := hparts c (by simp)
    obtain ⟨ws', ha⟩ := hparts a (by simp)
    have hpending := hc.pending_of_isModifier hmod
    obtain ⟨o, ho, -⟩ := hpending.exists_operand
    obtain ⟨-, -, -, -, hten⟩ := (ha.pending hleft).exists_operand
    have hcten := hpending.natAbs_of_isModifier hmod
    rcases List.eq_nil_or_concat l with rfl | ⟨l, d, rfl⟩
    · rw [hfirst c rfl] at ho
      cases ho
    · have hassoc : l ++ [d] ++ c :: a :: r = l ++ d :: c :: a :: r := by simp
      rw [List.concat_eq_append, hassoc] at hparts hfirst ⊢
      obtain ⟨l', c', a', r', hl, hside, hle⟩ := exists_left_of_pending hparts hfirst (by simp [ho])
      exact ⟨l', c', a', r', hl, hside, by omega⟩
  · exact ⟨l, c, a, r, rfl, mergeSide_eq_left_iff.2 ⟨hleft, by simpa using hmod⟩, Nat.le_refl _⟩
termination_by l.length

/-- The first of two values that merge does not wait for anything. -/
theorem left_eq_none_of_least {l r : List Numeral} {a b : Numeral} {side : Side} {o : Operand} {x : Int}
    (hparts : ∀ n ∈ l ++ a :: b :: r, ∃ ws, Part ws n)
    (hfirst : ∀ n ∈ (l ++ a :: b :: r).head?, n.left = none) (hside : mergeSide a b = some side)
    (ho : side.operand a b = some o) (hx : o.apply (side.owner a b).value (side.consumed a b).value = .ok x)
    (hleast : Least side (side.owner a b).value.natAbs (l ++ a :: b :: r)) : a.left = none := by
  by_contra hleft
  rcases List.eq_nil_or_concat l with rfl | ⟨l, c, rfl⟩
  · exact hleft (hfirst a rfl)
  · have hassoc : l ++ [c] ++ a :: b :: r = l ++ c :: a :: b :: r := by simp
    rw [List.concat_eq_append, hassoc] at hparts hfirst hleast
    obtain ⟨l', c', a', r', hl, hleftSide, hle⟩ := exists_left_of_pending hparts hfirst hleft
    obtain ⟨hmin, hequal⟩ := hleast l' c' a' r' .left hl hleftSide
    cases side with
    | right =>
      have hmin : a.value.natAbs ≤ a'.value.natAbs := hmin
      cases hequal (Nat.le_antisymm hle hmin) rfl
    | left =>
      -- The owner takes up smaller numbers only, but its neighbour is not smaller.
      obtain ⟨ws, hb⟩ := hparts b (by simp)
      obtain ⟨o', ho', hlow, hhigh, -⟩ := (hb.pending (mergeSide_eq_left_iff.1 hside).1).exists_operand
      obtain rfl : o = o' := Option.some.inj (ho.symm.trans ho')
      have hmin : b.value.natAbs ≤ a'.value.natAbs := hmin
      have haccepts : o.low ≤ a.value ∧ a.value ≤ o.high := accepts_iff.1 (apply_eq_ok_iff.1 hx).1
      omega

/-- A merge makes a part of two. -/
theorem part_joined {wa wb : List Text} {a b : Numeral} {side : Side} {o : Operand} {x : Int}
    (ha : Part wa a) (hb : Part wb b) (hleft : a.left = none) (hside : mergeSide a b = some side)
    (ho : side.operand a b = some o)
    (hx : o.apply (side.owner a b).value (side.consumed a b).value = .ok x) :
    Part (wa ++ wb) (joinedValue a b x) := by
  -- What stands first waits for nothing on its left, so it is a block, and the second part decides what it becomes.
  obtain ⟨k, ha⟩ := ha.exists_block hleft
  obtain ⟨haccepts, -, hx⟩ := apply_eq_ok_iff.1 hx
  rw [accepts_iff] at haccepts
  have hvalue := ha.stands.value
  cases side with
  | left =>
    have ho : b.left = some o := ho
    have hconsumed : o.low ≤ a.value ∧ a.value ≤ o.high := haccepts
    cases hb.pending (by simp [ho]) with
    | @power p _ hp hn hright =>
      obtain rfl := Option.some.inj (ho.symm.trans hn.left)
      have hlow : (1 : Int) ≤ a.value := hconsumed.1
      have hhigh : a.value ≤ p.factor := hconsumed.2
      refine .inl ⟨_, ha.multiply hp hright (by omega) (by omega) ?_⟩
      rw [hx]
      show b.value * a.value = _
      rw [hn.value, hvalue, Int.natCast_mul]
    | teen =>
      cases ho
      have hlow : (3 : Int) ≤ a.value := hconsumed.1
      have hhigh : a.value ≤ 9 := hconsumed.2
      refine .inl ⟨_, ha.addTeen rfl (by omega) (by omega) ?_⟩
      rw [hx]
      show 10 + a.value = _
      rw [hvalue]
      rfl
  | right =>
    have ho : a.right = some o := ho
    obtain ⟨-, -, hb' | hmod⟩ := mergeSide_eq_right_iff.1 hside
    · obtain ⟨k', hb⟩ := hb.exists_block hb'
      obtain ⟨m, hm, rfl, hroom⟩ := ha.right o ho
      have hvalue' := hb.stands.value
      have hlow : (1 : Int) ≤ b.value := haccepts.1
      have hhigh : b.value ≤ (m : Int) - 1 := haccepts.2
      refine .inl ⟨_, ha.add hb hm hroom (by omega) (by omega) ?_⟩
      rw [hx]
      show a.value + b.value = _
      rw [hvalue, hvalue', Int.natCast_add]
    · rw [ha.stands.number] at hmod
      cases hmod

/-- Lists of words with their values, of which the first waits for nothing. -/
structure Parts (wss : List (List Text)) (ns : List Numeral) : Prop where
  parts : List.Forall₂ Part wss ns
  first : ∀ n ∈ ns.head?, n.left = none

namespace Parts

variable {wss : List (List Text)} {ns : List Numeral}

theorem exists_of_mem (h : Parts wss ns) : ∀ n ∈ ns, ∃ ws, Part ws n := by
  intro n hn
  obtain ⟨k, hk, rfl⟩ := List.mem_iff_getElem.1 hn
  exact ⟨_, h.parts.get (h.parts.length_eq ▸ hk) hk⟩

/-- A merge keeps the words in their order. -/
theorem exists_of_joins (h : Parts wss ns) {ns' : List Numeral} (hjoins : Joins ns ns') :
    ∃ wss', wss'.flatten = wss.flatten ∧ Parts wss' ns' := by
  have hmem := h.exists_of_mem
  obtain ⟨hparts, hfirst⟩ := h
  cases hjoins with
  | @intro l r a b side o x hside ho hx hleast =>
    obtain ⟨wl, wa, wb, wr, rfl, hl, ha, hb, hr⟩ := exists_of_forall₂_append hparts
    have hleft := left_eq_none_of_least hmem hfirst hside ho hx hleast
    refine ⟨wl ++ (wa ++ wb) :: wr, by simp,
      List.rel_append hl (.cons (part_joined ha hb hleft hside ho hx) hr), ?_⟩
    cases l with
    | nil =>
      intro n hn
      cases hn
      exact hleft
    | cons c l => exact hfirst

end Parts

/-! ## Words of the vocabulary -/

instance (m k : Nat) : Decidable (HasRoom m k) :=
  inferInstanceAs (Decidable (_ ∧ _))

/-- The words below one hundred spell their values. -/
theorem spell_of_mem_below : ∀ e ∈ small ++ multiplesOfTen, e.numeral.isModifier = false ∧ e.left = none ∧
    0 ≤ e.value ∧ e.value < 100 ∧ [respell e.word] = spell e.value.toNat ∧
      respell e.word ∉ teenWord :: scales.map (·.word) ∧
        ∀ o ∈ e.right, o = ⟨.add, 1, 9⟩ ∧ HasRoom 10 e.value.toNat := by
  decide

theorem exists_scale_of_mem_powers : ∀ e ∈ powers, ∃ p ∈ scales, respell e.word = p.word ∧
    e.numeral = p.numeral := by
  decide

/-- A power of ten without a number before it spells itself, with the word for one in front. -/
theorem fuseTeens_one_power : ∀ p ∈ scales, fuseTeens ["one".toList, p.word] = spell p.size := by
  decide

/-- A masked operand on the right is that of the word, if it is there. -/
theorem mem_right_of_masked {w : Text} {m : Meaning Numeral} (hw : meaning? w = some m)
    (size index : Nat) : ∀ o ∈ (masked size index m).right, o ∈ m.value.right := by
  intro o ho
  have ho : o ∈ if index + 1 = size then none else allowedRight m := ho
  split at ho
  · cases ho
  · rwa [(allowed_of_meaning? hw).2] at ho

/-- A masked word below one hundred is a block by itself. -/
theorem block_masked_below {e : VocabularyEntry} (he : e ∈ small ++ multiplesOfTen)
    (hw : meaning? e.word = some ⟨e.numeral, e.association⟩) (size index : Nat) :
    Block [respell e.word] (masked size index ⟨e.numeral, e.association⟩) e.value.toNat := by
  obtain ⟨hnumber, hleft, hpos, hlt, hspell, hword, hright⟩ := spell_of_mem_below e he
  rw [List.mem_cons, not_or] at hword
  constructor
  · refine ⟨(Int.toNat_of_nonneg hpos).symm, ?_, ?_⟩
    · rw [masked_isModifier]
      exact hnumber
    · show (if index = 0 then none else allowedLeft ⟨e.numeral, e.association⟩) = none
      rw [(allowed_of_meaning? hw).1]
      split
      · rfl
      · exact hleft
  · omega
  · exact hspell
  · simp
  · exact fun h => hword.1 (Option.some.inj h)
  · intro o ho
    obtain ⟨rfl, hroom⟩ := hright o (mem_right_of_masked hw size index o ho)
    exact ⟨10, by decide, rfl, hroom⟩

/-- A masked power of ten without a number before it is a block, with the word for one in front. -/
theorem block_masked_power {w : Text} {m : Meaning Numeral} (hw : meaning? w = some m) {p : Scale}
    (hp : p ∈ scales) (hvalue : m.value = p.numeral) (size : Nat) :
    Block ["one".toList, p.word] (masked size 0 m) p.size := by
  constructor
  · refine ⟨?_, ?_, masked_left_zero size m⟩
    · rw [masked_value, hvalue]
      rfl
    · rw [masked_isModifier, hvalue]
      rfl
  · exact Nat.lt_of_lt_of_le Scale.size_lt_bound p.bounded
  · exact fuseTeens_one_power p hp
  · simp
  · show some "one".toList ≠ some teenWord
    decide
  · intro o ho
    have ho := mem_right_of_masked hw size 0 o ho
    rw [hvalue] at ho
    have hroom : ∀ p ∈ scales, HasRoom p.size p.size := by decide
    exact ⟨p.size, size_mem_rooms p hp, (Option.some.inj ho).symm, hroom p hp⟩

/-- The words of the vocabulary are words below one hundred, powers of ten, or the ending of the teens. -/
theorem cases_of_meaning? {w : Text} {m : Meaning Numeral} (hw : meaning? w = some m) :
    (respell w ∉ scales.map (·.word) ∧
      ∀ size index, ∃ k, Block [respell w] (masked size index m) k) ∨
      (∃ p ∈ scales, respell w = p.word ∧ m.value = p.numeral) ∨
      (respell w = teenWord ∧ m.value = { kind := .modifier, value := 10, left := some ⟨.add, 3, 9⟩ }) := by
  obtain ⟨e, he, rfl, rfl⟩ := exists_entry_of_meaning? hw
  have hbelow : ∀ he : e ∈ small ++ multiplesOfTen, respell e.word ∉ scales.map (·.word) ∧
      ∀ size index, ∃ k, Block [respell e.word] (masked size index ⟨e.numeral, e.association⟩) k := by
    intro he
    obtain ⟨-, -, -, -, -, hword, -⟩ := spell_of_mem_below e he
    exact ⟨fun h => hword (List.mem_cons_of_mem _ h), fun size index => ⟨_, block_masked_below he hw size index⟩⟩
  rcases List.mem_append.1 he with he | he
  · rcases List.mem_append.1 he with he | he
    · exact .inl (hbelow (List.mem_append_left _ he))
    · rcases List.mem_cons.1 he with rfl | he
      · exact .inr (.inr ⟨by decide, rfl⟩)
      · exact .inl (hbelow (List.mem_append_right _ he))
  · obtain ⟨p, hp, hword, hvalue⟩ := exists_scale_of_mem_powers e he
    exact .inr (.inl ⟨p, hp, hword, hvalue⟩)

/-- A masked word behind the first is a part by itself. -/
theorem part_masked {w : Text} {m : Meaning Numeral} (hw : meaning? w = some m) {size index : Nat}
    (hindex : 0 < index) : Part [respell w] (masked size index m) := by
  have hleft : (masked size index m).left = m.value.left := by
    rw [masked_left_of_pos hindex, (allowed_of_meaning? hw).1]
  -- A power of ten and the ending of the teens keep the operand on their left, so they wait.
  rcases cases_of_meaning? hw with ⟨-, h⟩ | ⟨p, hp, hword, hvalue⟩ | ⟨hword, hvalue⟩
  · exact .inl (h size index)
  · rw [hword]
    rw [hvalue] at hleft
    refine .inr (.power hp ⟨?_, ?_, hleft⟩ ?_)
    · rw [masked_value, hvalue]
      rfl
    · rw [masked_isModifier, hvalue]
      rfl
    · have hright := mem_right_of_masked hw size index
      rw [hvalue] at hright
      cases hr : (masked size index m).right with
      | none => exact .inl rfl
      | some o => exact .inr (congrArg some (Option.some.inj (hright o hr)).symm)
  · rw [hword]
    have hright : (masked size index m).right = none := by
      have hright := mem_right_of_masked hw size index
      rw [hvalue] at hright
      exact Option.eq_none_iff_forall_not_mem.2 fun o ho => absurd (hright o ho) (by simp)
    have hmasked : masked size index m = { kind := .modifier, value := 10, left := some ⟨.add, 3, 9⟩ } := by
      have heq : masked size index m = m.value.withOperands (masked size index m).left
        (masked size index m).right := rfl
      rw [heq, hleft, hright, hvalue]
      rfl
    rw [hmasked]
    exact .inr .teen

/-- The first masked word is a block by itself, a power of ten with the word for one in front. -/
theorem part_masked_first {w : Text} {m : Meaning Numeral} (hw : meaning? w = some m) {size : Nat}
    (hmaskable : Maskable size 0 m) : Part (prefixOne [respell w]) (masked size 0 m) := by
  rcases cases_of_meaning? hw with ⟨hword, h⟩ | ⟨p, hp, hword, hvalue⟩ | ⟨-, hvalue⟩
  · rw [prefixOne, if_neg hword]
    exact .inl (h size 0)
  · rw [hword, prefixOne, if_pos (List.mem_map_of_mem hp)]
    exact .inl ⟨_, block_masked_power hw hp hvalue size⟩
  · -- The ending of the teens needs a number before it.
    have hleft := (hmaskable (by rw [hvalue]; rfl)).1 rfl
    rw [(allowed_of_meaning? hw).1, hvalue] at hleft
    cases hleft

/-! ## Reading -/

/-- The masked values of words behind the first are parts by themselves. -/
theorem parts_masked {ws : List Text} {ms : List (Meaning Numeral)} {size start : Nat} (hstart : 0 < start)
    (hms : ws.map meaning? = ms.map some) :
    List.Forall₂ Part (ws.map fun w => [respell w]) ((ms.zipIdx start).map fun (m, i) => masked size i m) := by
  induction ws generalizing ms start with
  | nil =>
    rw [List.map_nil, eq_comm, List.map_eq_nil_iff] at hms
    rw [hms]
    exact .nil
  | cons w ws ih =>
    cases ms with
    | nil => cases hms
    | cons m ms =>
      obtain ⟨hw, htail⟩ := List.cons.inj hms
      exact .cons (part_masked hw hstart) (ih (Nat.succ_pos _) htail)

theorem flatten_prefixOne (w : Text) (ws : List Text) :
    (prefixOne [respell w] :: ws.map fun w => [respell w]).flatten = prefixOne ((w :: ws).map respell) := by
  have hrest : (ws.map fun w => [respell w]).flatten = ws.map respell := by
    rw [← List.flatMap_def, ← List.map_eq_flatMap]
  rw [List.flatten_cons, hrest, List.map_cons, prefixOne, prefixOne]
  split
  · rfl
  · rfl

/-- The words of a phrase that is masked are parts by themselves, from which the canonical words come. -/
theorem exists_parts_of_mask {p q : Phrase} (h : p.mask = .ok q) {ws : List Text}
    (hp : p.tokens.map (·.current.meaning) = ws.map meaning?) :
    ∃ wss ns, q.Reads ns ∧ Parts wss ns ∧ wss.flatten = prefixOne (ws.map respell) := by
  obtain ⟨ms, hms⟩ := exists_meanings_of_mask h
  have hreads := reads_of_mask h hms
  have hwords := hp.symm.trans hms
  cases ws with
  | nil =>
    rw [List.map_nil, eq_comm, List.map_eq_nil_iff] at hwords
    subst hwords
    exact ⟨[], [], hreads, ⟨.nil, by simp⟩, rfl⟩
  | cons w ws =>
    cases ms with
    | nil => cases hwords
    | cons m ms =>
      obtain ⟨hw, htail⟩ := List.cons.inj hwords
      have hmaskable := maskable_of_mask h hms
      refine ⟨_, _, hreads, ⟨.cons (part_masked_first hw hmaskable) (parts_masked Nat.zero_lt_one htail), ?_⟩,
        flatten_prefixOne w ws⟩
      intro n hn
      cases hn
      exact masked_left_zero p.size m

/-- **Only spelled numbers are read.** If the English parser with default settings reads a number from a text, then it
is one below one million million, and the words of the text are its words: the runs of letters in lower case, with
other words for zero and forty replaced, teens in one word, and the word for one in front of a power of ten at the
beginning. -/
theorem canonical_of_parse {parser : NumberParser} (hparser : NumberParser.ofVocabulary vocabulary = .ok parser)
    {text : Text} {v : Int} (h : parser.parse text = .ok v) :
    0 ≤ v ∧ v < 10 ^ 12 ∧ canonical ((letterRuns text).map Text.lowercase) = spell v.toNat := by
  obtain ⟨p, hp, hparse⟩ := exists_phrase_of_ofVocabulary hparser text
  obtain ⟨t, ht, hv⟩ := (hparse v).1 h
  obtain ⟨q, hmask, hmerges, -⟩ := merges_of_reduce ht
  obtain ⟨wss, ns, hns, hparts, hflatten⟩ := exists_parts_of_mask hmask hp
  obtain ⟨ns', hns', wss', hflatten', hparts'⟩ := exists_values_of_merges
    (P := fun ns => ∃ wss', wss'.flatten = wss.flatten ∧ Parts wss' ns)
    (fun ns ns' ⟨wss', hflatten', hparts'⟩ hjoins => by
      obtain ⟨wss'', hflatten'', hparts''⟩ := hparts'.exists_of_joins hjoins
      exact ⟨wss'', hflatten''.trans hflatten', hparts''⟩)
    hmerges hns ⟨wss, rfl, hparts⟩
  -- What is left is a single part that waits for nothing, and it has all the words.
  obtain ⟨n, hn, hresolved, rfl⟩ := extract_eq_ok_iff.1 hv
  obtain rfl := hns'.unique hn
  obtain ⟨ws, hpart, rfl⟩ : ∃ ws, Part ws n ∧ wss' = [ws] := by
    obtain ⟨ws, rest, hws, hrest, rfl⟩ := List.forall₂_cons_right_iff.1 hparts'.parts
    rw [List.forall₂_nil_right_iff] at hrest
    exact ⟨ws, hws, by rw [hrest]⟩
  obtain ⟨k, hblock⟩ := hpart.exists_block (isResolved_iff.1 hresolved).2.1
  have hvalue := hblock.stands.value
  have hlt := hblock.lt
  have hwords : ws = prefixOne ((words text).map respell) := by
    rw [← hflatten, ← hflatten']
    simp
  refine ⟨by omega, by omega, ?_⟩
  rw [hvalue, Int.toNat_natCast, ← hblock.words, hwords, ← prefixOne_fuseTeens]
  rfl

/-- A hundred without a number before it, another word for forty, and a teen in two words. -/
def hundredFourtyThousandFourTeen : Phrase :=
  .ofList
    [lettered 'h' 0 Scale.hundred.numeral,
      lettered 'f' 2 { value := 40, right := some ⟨.add, 1, 9⟩ },
      lettered 't' 4 Scale.thousand.numeral, lettered 'f' 6 (.number 4),
      lettered 't' 8 { kind := .modifier, value := 10, left := some ⟨.add, 3, 9⟩ }]

/-- The words are read as one hundred forty thousand fourteen, which they spell in their canonical form. -/
theorem canonical_of_parse_hundredFourtyThousandFourTeen :
    ∃ parser, NumberParser.ofVocabulary vocabulary = .ok parser ∧
      parser.parse "Hundred FOURTY thousand, four-teen!".toList = .ok 140014 ∧
        0 ≤ (140014 : Int) ∧ (140014 : Int) < 10 ^ 12 ∧
          canonical ((letterRuns "Hundred FOURTY thousand, four-teen!".toList).map Text.lowercase) =
            spell 140014 := by
  obtain ⟨parser, hparser⟩ := exists_ofVocabulary
  obtain ⟨p, hp, hparse⟩ := exists_phrase_of_ofVocabulary hparser "Hundred FOURTY thousand, four-teen!".toList
  have hmeanings : (words "Hundred FOURTY thousand, four-teen!".toList).map meaning? =
      hundredFourtyThousandFourTeen.tokens.map (·.current.meaning) := by
    decide +kernel
  have hread := (hparse 140014).2 (exists_reduce_of_meanings (p := hundredFourtyThousandFourTeen)
    rfl rfl (hp.trans hmeanings))
  exact ⟨parser, hparser, hread, canonical_of_parse hparser hread⟩

end TextAnalysis.English
