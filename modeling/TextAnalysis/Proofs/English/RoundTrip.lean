/-
# Reading spelled numbers

The canonical words of a number below one million million are read as that number, whatever stands between them and
in whatever case they are written.
-/
import TextAnalysis.Proofs.English.Powers
import TextAnalysis.Proofs.English.Words
import TextAnalysis.Proofs.Reduction.Ends

namespace TextAnalysis.English

open Phrase

/-! ## Values of words -/

/-- Values of words of the vocabulary in a row. The right operand of the last word may be missing. -/
inductive Shows : List Text → List Numeral → Prop
  | last {w : Text} {m : Meaning Numeral} {n : Numeral} (hw : meaning? w = some m)
      (hn : n.withOperands n.left none = m.value.withOperands m.value.left none) : Shows [w] [n]
  | cons {w : Text} {m : Meaning Numeral} {ws : List Text} {ns : List Numeral}
      (hw : meaning? w = some m) (hs : Shows ws ns) : Shows (w :: ws) (m.value :: ns)

namespace Shows

/-- The values of two lists of words in a row are those of the two. -/
theorem exists_of_append {xs ys : List Text} {w : Text} {ns : List Numeral} (h : Shows (xs ++ w :: ys) ns)
    (hxs : xs ≠ []) : ∃ as n bs, ns = as ++ n :: bs ∧ Shows xs as ∧ Shows (w :: ys) (n :: bs) := by
  induction xs generalizing ns with
  | nil => exact absurd rfl hxs
  | cons x xs ih =>
    generalize hl : x :: xs ++ w :: ys = l at h
    cases h with
    | last => simp at hl
    | @cons x' m tail ns hx htail =>
      obtain ⟨hfirst, hrest⟩ := List.cons.inj hl
      subst hfirst hrest
      cases xs with
      | nil =>
        cases htail with
        | last hw hn => exact ⟨[m.value], _, [], rfl, .last hx rfl, .last hw hn⟩
        | cons hw hs => exact ⟨[m.value], _, _, rfl, .last hx rfl, .cons hw hs⟩
      | cons x' xs =>
        obtain ⟨as, n, bs, rfl, has, hbs⟩ := ih htail (by simp)
        exact ⟨m.value :: as, n, bs, rfl, .cons hx has, hbs⟩

/-- The value of a single word that is a number without an operand on its left. -/
theorem stands_of_singleton {w : Text} {m : Meaning Numeral} {v : Nat} {ns : List Numeral}
    (h : Shows [w] ns) (hw : meaning? w = some m) (hm : Stands v m.value) : ∃ n, ns = [n] ∧ Stands v n := by
  cases h with
  | @last _ m' n hw' hn =>
    obtain rfl := Option.some.inj (hw'.symm.trans hw)
    obtain ⟨hkind, hvalue, hleft, -⟩ := Numeral.mk.inj hn
    refine ⟨n, rfl, hvalue.trans hm.value, ?_, hleft.trans hm.left⟩
    have hnumber := hm.number
    unfold Numeral.isModifier at hnumber ⊢
    rwa [hkind]
  | cons hw hs => cases hs

end Shows

/-- The English vocabulary allows all operands of its words. -/
theorem allowed_of_meaning? {w : Text} {m : Meaning Numeral} (h : meaning? w = some m) :
    allowedLeft m = m.value.left ∧ allowedRight m = m.value.right := by
  obtain ⟨e, he, -, rfl⟩ := exists_entry_of_meaning? h
  have hall : ∀ e ∈ vocabulary.entries,
      allowedLeft ⟨e.numeral, e.association⟩ = e.left ∧ allowedRight ⟨e.numeral, e.association⟩ = e.right := by
    decide
  exact hall e he

/-- The masked values of words are their values, if the first of them has no operand on its left. -/
theorem shows_masked {ws : List Text} {ms : List (Meaning Numeral)} {start size : Nat}
    (hms : ws.map meaning? = ms.map some) (hne : ws ≠ [])
    (hfirst : start = 0 → ∀ m ∈ ms.head?, m.value.left = none) (hsize : start + ms.length = size) :
    Shows ws ((ms.zipIdx start).map fun (m, i) => masked size i m) := by
  induction ws generalizing ms start with
  | nil => exact absurd rfl hne
  | cons w ws ih =>
    cases ms with
    | nil => cases hms
    | cons m ms =>
      obtain ⟨hw, htail⟩ := List.cons.inj hms
      have hw : meaning? w = some m := hw
      obtain ⟨hl, hr⟩ := allowed_of_meaning? hw
      -- Only the first word loses the operand on its left, and only the last one that on its right.
      have hleft : (masked size start m).left = m.value.left := by
        by_cases h : start = 0
        · subst h
          exact (hfirst rfl m rfl).symm
        · rw [masked_left_of_pos (by omega), hl]
      rw [List.zipIdx_cons, List.map_cons]
      cases ws with
      | nil =>
        rw [List.map_nil, eq_comm, List.map_eq_nil_iff] at htail
        subst htail
        refine .last hw ?_
        dsimp only
        rw [hleft]
        rfl
      | cons w' ws =>
        have hlength : ms.length = ws.length + 1 := by simpa using (congrArg List.length htail).symm
        rw [List.length_cons] at hsize
        have hmasked : masked size start m = m.value := by
          have hright := masked_right_of_lt (by omega : start + 1 < size) m
          rw [hr] at hright
          exact congrArg₂ (m.value.withOperands) hleft hright
        dsimp only
        rw [hmasked]
        exact .cons hw (ih htail (by simp) (fun h => absurd h (by omega)) (by omega))

/-! ## Spelled numbers -/

/-- The words of the numbers below a bound are known, the first of them waits for nothing before it, and their
values make the numbers. -/
structure Spells (bound : Nat) (f : Nat → List Text) (S : Nat → List Numeral → Prop) : Prop where
  first : ∀ n < bound, ∃ w ws m, f n = w :: ws ∧ meaning? w = some m ∧ m.value.left = none
  known : ∀ n < bound, ∀ w ∈ f n, ∃ m, meaning? w = some m ∧ m.value.isModifier = false
  shows : ∀ n ns, 0 < n → n < bound → Shows (f n) ns → S n ns

theorem meaning?_smallWords : ∀ k < 20, meaning? (smallWords.getD k []) = some ⟨.number k, none⟩ := by
  decide

theorem meaning?_tensWords : ∀ k < 8, meaning? (tensWords.getD k []) =
    some ⟨{ value := (10 * (k + 2) : Nat), right := some ⟨.add, 1, 9⟩ }, some .right⟩ := by
  decide

theorem spells_tens : Spells 100 spellTens TensValues where
  first n hn := by
    unfold spellTens
    split
    · exact ⟨_, _, _, rfl, meaning?_smallWords n ‹_›, rfl⟩
    · exact ⟨_, _, _, rfl, meaning?_tensWords (n / 10 - 2) (by omega), rfl⟩
  known n hn w hw := by
    unfold spellTens at hw
    split at hw
    · exact ⟨_, List.mem_singleton.1 hw ▸ meaning?_smallWords n ‹_›, rfl⟩
    · rcases List.mem_cons.1 hw with rfl | hw
      · exact ⟨_, meaning?_tensWords (n / 10 - 2) (by omega), rfl⟩
      · split at hw
        · cases hw
        · exact ⟨_, List.mem_singleton.1 hw ▸ meaning?_smallWords (n % 10) (by omega), rfl⟩
  shows n ns hpos hn h := by
    unfold spellTens at h
    split at h
    · obtain ⟨m, rfl, hm⟩ := h.stands_of_singleton (meaning?_smallWords n ‹_›) ⟨rfl, rfl, rfl⟩
      exact .single hm hpos hn
    · have htens := meaning?_tensWords (n / 10 - 2) (by omega)
      split at h
      · have hvalue : 10 * (n / 10 - 2 + 2) = n := by omega
        obtain ⟨m, rfl, hm⟩ := h.stands_of_singleton htens ⟨congrArg _ hvalue, rfl, rfl⟩
        exact .single hm hpos hn
      · cases h with
        | cons hw hs =>
          obtain rfl := Option.some.inj (hw.symm.trans htens)
          obtain ⟨m, rfl, hm⟩ :=
            hs.stands_of_singleton (meaning?_smallWords (n % 10) (by omega)) ⟨rfl, rfl, rfl⟩
          have hvalue : 10 * (n / 10 - 2 + 2) + n % 10 = n := by omega
          -- The word for the tens waits for a unit.
          have htensvalue : Stands (10 * (n / 10 - 2 + 2))
              { value := (10 * (n / 10 - 2 + 2) : Nat), right := some ⟨.add, 1, 9⟩ } := ⟨rfl, rfl, rfl⟩
          have hpair := TensValues.pair htensvalue rfl hm (by omega) (by omega) (by omega)
          rwa [hvalue] at hpair

namespace Scale

variable {f : Nat → List Text} {S : Nat → List Numeral → Prop}

/-- A power of ten as the vocabulary has it. -/
def numeral (p : Scale) : Numeral :=
  { value := p.size, left := some p.multiplier, right := some p.addend }

/-- The value of a power of ten, and those of the words after it. -/
theorem exists_of_shows {p : Scale} {w : Text} (hp : meaning? w = some ⟨p.numeral, some .bidirectional⟩)
    {rest : List Text} {n : Numeral} {ns : List Numeral} (h : Shows (w :: rest) (n :: ns)) :
    p.Waits n ∧ ((rest = [] ∧ ns = []) ∨ (n.right = some p.addend ∧ Shows rest ns)) := by
  cases h with
  | last hw hn =>
    obtain rfl := Option.some.inj (hw.symm.trans hp)
    obtain ⟨hkind, hvalue, hleft, -⟩ := Numeral.mk.inj hn
    refine ⟨⟨hvalue, ?_, hleft⟩, .inl ⟨rfl, rfl⟩⟩
    unfold Numeral.isModifier
    rw [hkind]
    rfl
  | cons hw hs =>
    obtain rfl := Option.some.inj (hw.symm.trans hp)
    exact ⟨⟨rfl, rfl, rfl⟩, .inr ⟨rfl, hs⟩⟩

/-- What multiplies a power of ten is smaller than it. -/
theorem div_lt_size (p : Scale) {n : Nat} (h : n < p.size * (p.factor + 1)) : n / p.size < p.size :=
  Nat.lt_of_lt_of_le (Nat.div_lt_of_lt_mul h) p.factor_lt

/-- The words of greater numbers are known and make the numbers as those of smaller numbers do. -/
theorem spells_values (p : Scale) (h : Spells p.size f S)
    (hp : meaning? p.word = some ⟨p.numeral, some .bidirectional⟩) :
    Spells (p.size * (p.factor + 1)) (p.spell f) (p.Values S) where
  first n hn := by
    unfold spell
    split
    · exact h.first n ‹_›
    · obtain ⟨w, ws, m, hf, hw, hm⟩ := h.first (n / p.size) (p.div_lt_size hn)
      exact ⟨w, _, m, by rw [hf]; rfl, hw, hm⟩
  known n hn w hw := by
    unfold spell at hw
    split at hw
    · exact h.known n ‹_› w hw
    · rcases List.mem_append.1 hw with hw | hw
      · exact h.known (n / p.size) (p.div_lt_size hn) w hw
      · rcases List.mem_cons.1 hw with rfl | hw
        · exact ⟨_, hp, rfl⟩
        · split at hw
          · cases hw
          · exact h.known (n % p.size) (Nat.mod_lt _ p.size_pos) w hw
  shows n ns hpos hn hs := by
    unfold spell at hs
    split at hs
    · exact .below (h.shows n ns hpos ‹_› hs)
    · rename_i hlarge
      have hq : n / p.size ≤ p.factor := Nat.le_of_lt_succ (Nat.div_lt_of_lt_mul hn)
      have hq' := Nat.lt_of_le_of_lt hq p.factor_lt
      have hqpos : 0 < n / p.size := Nat.div_pos (Nat.not_lt.1 hlarge) p.size_pos
      -- The word of the power parts the values into those before it and those after it.
      obtain ⟨w, ws, m, hf, -, -⟩ := h.first (n / p.size) hq'
      obtain ⟨before, m, after, rfl, hbefore, hafter⟩ := hs.exists_of_append (by rw [hf]; simp)
      obtain ⟨hm, hrest⟩ := exists_of_shows hp hafter
      rw [← Nat.div_add_mod n p.size]
      refine .around (h.shows _ _ hqpos hq' hbefore) hq hm ?_
      rcases hrest with ⟨hnil, rfl⟩ | ⟨hright, hrest⟩
      · refine .inl ⟨rfl, ?_⟩
        split at hnil
        · assumption
        · obtain ⟨w, ws, m, hf, -, -⟩ := h.first (n % p.size) (Nat.mod_lt _ p.size_pos)
          rw [hf] at hnil
          cases hnil
      · refine .inr ⟨hright, ?_⟩
        split at hrest
        · cases hrest
        · exact h.shows _ _ (Nat.pos_of_ne_zero ‹_›) (Nat.mod_lt _ p.size_pos) hrest

end Scale

/-- The words of the numbers below one million million make the numbers. -/
theorem spells_spell : Spells (10 ^ 12) spell SpelledValues :=
  have hhundreds := Scale.hundred.spells_values spells_tens (by decide)
  have hthousands := Scale.thousand.spells_values hhundreds (by decide)
  Scale.million.spells_values hthousands (by decide)

/-! ## Reading -/

/-- A phrase whose masked values make a number reduces to that number. -/
theorem exists_reduce_of_values {n : Nat} {p : Phrase} {ms : List (Meaning Numeral)}
    (hms : p.tokens.map (·.current.meaning) = ms.map some)
    (hnumbers : ∀ m ∈ ms, m.value.isModifier = false)
    (hvalues : SpelledValues n (ms.zipIdx.map fun (m, i) => masked ms.length i m)) :
    ∃ t, p.reduce = .ok t ∧ t.extract = .ok n := by
  -- The values make the number, and no operand faces an end, throughout all merges.
  obtain ⟨t, ns, ht, hns, ⟨hvalues, hends⟩, hend⟩ := exists_reduce hms hnumbers
    (P := fun ns => SpelledValues n ns ∧ EndsFree ns) ⟨hvalues, endsFree_masked ms⟩ (by
      intro l a b r side ⟨hvalues, hends⟩ hside hleast
      obtain ⟨o, x, ho, hx, hnew⟩ := steady_spelledValues.step hvalues rfl hside hleast
      exact ⟨o, x, ho, hx, hnew, (Joins.intro hside ho hx hleast).endsFree hends⟩)
  cases ns with
  | nil => exact absurd rfl (steady_spelledValues.ne_nil hvalues)
  | cons x ns =>
    cases ns with
    | nil =>
      have hresolved := isResolved_iff.2
        ⟨steady_spelledValues.number hvalues x (List.mem_singleton_self x), hends.first x rfl, hends.last x rfl⟩
      exact ⟨t, ht, extract_eq_ok_iff.2 ⟨x, hns, hresolved, steady_spelledValues.value hvalues⟩⟩
    | cons y ns =>
      obtain ⟨l, a, b, r, side, hl, hside, -⟩ := steady_spelledValues.progress hvalues
      rw [(nextCandidate_eq_none_iff hns).1 hend l a b r hl] at hside
      cases hside

/-- A phrase whose words spell a number from one on reduces to that number. -/
theorem exists_reduce_of_spell {n : Nat} (hpos : 0 < n) (hn : n < 10 ^ 12) {p : Phrase}
    (hp : p.tokens.map (·.current.meaning) = (spell n).map meaning?) :
    ∃ t, p.reduce = .ok t ∧ t.extract = .ok n := by
  obtain ⟨ms, hms, hnumbers⟩ := exists_map_eq_map_some (spells_spell.known n hn)
  obtain ⟨w, ws, m, hspell, hw, hleft⟩ := spells_spell.first n hn
  have hfirst : ∀ m' ∈ ms.head?, m'.value.left = none := by
    intro m' hm'
    rw [hspell, List.map_cons, hw] at hms
    cases ms with
    | nil => cases hms
    | cons m'' ms =>
      obtain rfl := Option.some.inj (List.cons.inj hms).1
      cases hm'
      exact hleft
  have hshows := shows_masked hms (by rw [hspell]; simp) (fun _ => hfirst) (Nat.zero_add _)
  exact exists_reduce_of_values (hp.trans hms) hnumbers (spells_spell.shows n _ hpos hn hshows)

/-- The word for zero reduces to zero. -/
theorem exists_reduce_of_zero {p : Phrase}
    (hp : p.tokens.map (·.current.meaning) = (spell 0).map meaning?) :
    ∃ t, p.reduce = .ok t ∧ t.extract = .ok 0 := by
  have hzero : (spell 0).map meaning? = [⟨.number 0, none⟩].map some := by decide
  obtain ⟨t, ns, ht, hns, rfl, -⟩ := exists_reduce (hp.trans hzero) (by decide)
    (P := fun ns => ns = [.number 0]) rfl
    (fun l a b r side h => absurd h.symm append_cons_cons_ne_singleton)
  exact ⟨t, ht, extract_eq_ok_iff.2 ⟨.number 0, hns, rfl, rfl⟩⟩

/-- **Spelled numbers are read.** A text whose runs of letters are, in lower case, the words of a number below one
million million is read as that number by the English parser with default settings. -/
theorem parse_spell {n : Nat} (hn : n < 10 ^ 12) {text : Text}
    (htext : (letterRuns text).map Text.lowercase = spell n) :
    ∃ parser, NumberParser.ofVocabulary vocabulary = .ok parser ∧ parser.parse text = .ok n := by
  obtain ⟨parser, hparser⟩ := exists_ofVocabulary
  obtain ⟨p, hp, hparse⟩ := exists_phrase_of_ofVocabulary hparser text
  have hwords : p.tokens.map (·.current.meaning) = (spell n).map meaning? := by
    rw [hp, ← htext]
    rfl
  refine ⟨parser, hparser, (hparse n).2 ?_⟩
  rcases Nat.eq_zero_or_pos n with rfl | hpos
  · exact exists_reduce_of_zero hwords
  · exact exists_reduce_of_spell hpos hn hwords

/-- Twelve million, three hundred forty-five, in capitals and with other separators than spaces. -/
theorem parse_spell_twelveMillion :
    12000345 < 10 ^ 12 ∧
      (letterRuns "  TWELVE-million3Three hundred, forty/five!".toList).map Text.lowercase =
        spell 12000345 ∧
      ∃ parser, NumberParser.ofVocabulary vocabulary = .ok parser ∧
        parser.parse "  TWELVE-million3Three hundred, forty/five!".toList = .ok 12000345 :=
  have hlt : 12000345 < 10 ^ 12 := by decide
  have htext : (letterRuns "  TWELVE-million3Three hundred, forty/five!".toList).map Text.lowercase =
      spell 12000345 := by decide +kernel
  ⟨hlt, htext, parse_spell hlt htext⟩

end TextAnalysis.English
