/-
# Reported occurrences

A report has one entry for each position of some tokens, with the text of the last token that has it. If no two tokens
have a position in common, every occurrence is reported. N-grams have the start of the text in common, and they become
longer there: of these only the longest one is reported.
-/
import TextAnalysis.CommandLine.Run
import TextAnalysis.Proofs.Tokenizers.Enumerating
import TextAnalysis.Proofs.Tokenizers.Lossless

namespace TextAnalysis

variable {α : Type} [Token α] {tokens : List α} {k : Nat} {t u : α}

/-! ## The longest token with a position -/

namespace Sequence

/-- Of two tokens with a position in common the later one is longer. -/
def Growing (tokens : List α) : Prop :=
  tokens.Pairwise fun t u => ∀ k, k ∈ Token.positions t → k ∈ Token.positions u →
    (Token.text t).length < (Token.text u).length

/-- Different tokens have no position in common if those that have one are equal. -/
theorem apart_of_text_eq (hnodup : (tokens.map Token.text).Nodup)
    (h : ∀ t ∈ tokens, ∀ u ∈ tokens, ∀ k, k ∈ Token.positions t → k ∈ Token.positions u →
      Token.text t = Token.text u) : Apart tokens := by
  refine (List.pairwise_map.1 hnodup).imp_of_mem fun {t u} ht hu hne k hkt hku => ?_
  exact hne (h t ht u hu k hkt hku)

theorem Apart.growing (h : Apart tokens) : Growing tokens :=
  h.imp fun hapart k ht hu => absurd hu (hapart k ht)

namespace Growing

/-- No two tokens of one length have a position in common. -/
theorem unique (h : Growing tokens) (ht : t ∈ tokens) (hu : u ∈ tokens) (hkt : k ∈ Token.positions t)
    (hku : k ∈ Token.positions u) (hlength : (Token.text t).length = (Token.text u).length) : t = u := by
  by_contra hne
  have hsymm : Std.Symm fun t u : α => ∀ k, k ∈ Token.positions t → k ∈ Token.positions u →
      (Token.text t).length ≠ (Token.text u).length := by
    constructor
    intro t u hlengths k hku hkt
    exact (hlengths k hkt hku).symm
  have hlengths := h.imp fun {t u} hlt k hkt hku => Nat.ne_of_lt (hlt k hkt hku)
  exact hlengths.forall ht hu hne k hkt hku hlength

theorem length_le_of_lastWith (h : Growing tokens) (hlast : lastWith tokens k = some t) (hu : u ∈ tokens)
    (hk : k ∈ Token.positions u) : (Token.text u).length ≤ (Token.text t).length := by
  induction tokens using List.reverseRecOn with
  | nil => cases hu
  | append_singleton tokens last ih =>
    obtain ⟨hinit, -, hbehind⟩ := List.pairwise_append.1 h
    rw [lastWith_concat] at hlast
    rcases List.mem_append.1 hu with hfront | hu
    · split at hlast
      · rename_i hklast
        cases hlast
        exact Nat.le_of_lt (hbehind u hfront t (List.mem_singleton_self t) k hk hklast)
      · exact ih hinit hlast hfront
    · obtain rfl := List.mem_singleton.1 hu
      rw [if_pos hk] at hlast
      cases hlast
      exact Nat.le_refl _

/-- The last token with a position is the longest one. -/
theorem lastWith_eq_some_iff (h : Growing tokens) :
    lastWith tokens k = some t ↔ t ∈ tokens ∧ k ∈ Token.positions t ∧
      ∀ u ∈ tokens, k ∈ Token.positions u → (Token.text u).length ≤ (Token.text t).length := by
  constructor
  · intro hlast
    obtain ⟨ht, hk⟩ := mem_of_lastWith hlast
    exact ⟨ht, hk, fun u hu hku => h.length_le_of_lastWith hlast hu hku⟩
  · rintro ⟨ht, hk, hlongest⟩
    obtain ⟨u, hlast⟩ := exists_lastWith_iff.2 ⟨t, ht, hk⟩
    obtain ⟨hu, hku⟩ := mem_of_lastWith hlast
    have hlength := Nat.le_antisymm (hlongest u hu hku) (h.length_le_of_lastWith hlast ht hk)
    rw [hlast, h.unique hu ht hku hk hlength]

end Growing

theorem lastWith_map {β : Type} [Token β] {f : α → β} (hpositions : ∀ t, Token.positions (f t) = Token.positions t)
    (tokens : List α) (k : Nat) : lastWith (tokens.map f) k = (lastWith tokens k).map f := by
  unfold lastWith
  rw [List.filter_map, List.getLast?_map]
  simp only [Function.comp_def, hpositions]

end Sequence

namespace CommandLine

open Sequence

variable {o : Report.Occurrence} {reported : List Report.Occurrence}

/-! ## Reports -/

/-- A text stands at a position: a token has them both. -/
def Occurs (tokens : List α) (o : Report.Occurrence) : Prop :=
  ∃ t ∈ tokens, Token.text t = o.text ∧ o.position ∈ Token.positions t

/-- A report has every occurrence of every token once, in the order of positions, and nothing else. -/
structure Complete (tokens : List α) (reported : List Report.Occurrence) : Prop where
  nodup : reported.Nodup
  ascending : reported.Pairwise fun o o' => o.position ≤ o'.position
  mem_iff : ∀ o, o ∈ reported ↔ Occurs tokens o

/-- What is reported is what stands at the positions when all tokens were put there. -/
theorem occurrences_eq (tokens : List α) :
    occurrences tokens = (tokens.foldl place .empty).entries.map fun e => ⟨Token.text e.2, e.1⟩ := by
  have hirrefl : Std.Irrefl fun m n : Nat => m < n := ⟨Nat.lt_irrefl⟩
  have hpositions : (tokens.foldl (fun all t => all.union (Token.positions t)) Positions.empty).toList =
      (tokens.foldl place .empty).entries.map (·.1) := by
    refine List.Pairwise.eq_of_mem_iff (Positions.ascending _) (occupied tokens).ascending fun x => ?_
    exact Positions.mem_foldl_union.trans mem_occupied.symm
  unfold occurrences
  dsimp only
  rw [hpositions, sorted, ofList, Numbered.values, List.map_map, List.zip_map', List.map_map]
  rfl

/-- The entry at a position is the last token that has it. -/
theorem mem_occurrences :
    o ∈ occurrences tokens ↔ ∃ t, lastWith tokens o.position = some t ∧ Token.text t = o.text := by
  obtain ⟨text, k⟩ := o
  rw [occurrences_eq, List.mem_map]
  constructor
  · rintro ⟨⟨k, t⟩, hmem, heq⟩
    cases heq
    exact ⟨t, mem_entries_iff.1 hmem, rfl⟩
  · rintro ⟨t, hlast, rfl⟩
    exact ⟨(k, t), mem_entries_iff.2 hlast, rfl⟩

/-- There is one entry for each position, in ascending order. -/
theorem ascending_occurrences (tokens : List α) :
    (occurrences tokens).Pairwise fun o o' => o.position < o'.position := by
  have hascending := (tokens.foldl place .empty).ascending
  rw [occurrences_eq]
  rw [List.pairwise_map] at hascending ⊢
  exact hascending

/-- Tokens that are made into others with the same texts and positions are reported in the same way. -/
theorem occurrences_map {β : Type} [Token β] {f : α → β} (htext : ∀ t, Token.text (f t) = Token.text t)
    (hpositions : ∀ t, Token.positions (f t) = Token.positions t) (tokens : List α) :
    occurrences (tokens.map f) = occurrences tokens := by
  have hirrefl : Std.Irrefl fun o o' : Report.Occurrence => o.position < o'.position := ⟨fun o => Nat.lt_irrefl o.position⟩
  refine List.Pairwise.eq_of_mem_iff (ascending_occurrences _) (ascending_occurrences _) fun o => ?_
  rw [mem_occurrences, mem_occurrences, lastWith_map hpositions]
  simp [htext]

/-- Of tokens that become longer, the longest one with a position is reported there. -/
theorem mem_occurrences_iff_longest (h : Growing tokens) : o ∈ occurrences tokens ↔
    Occurs tokens o ∧ ∀ o', Occurs tokens o' → o'.position = o.position → o'.text.length ≤ o.text.length := by
  obtain ⟨text, k⟩ := o
  simp only [mem_occurrences, h.lastWith_eq_some_iff]
  constructor
  · rintro ⟨t, ⟨ht, hk, hlongest⟩, rfl⟩
    refine ⟨⟨t, ht, rfl, hk⟩, ?_⟩
    rintro ⟨text, k⟩ ⟨u, hu, rfl, hku⟩ rfl
    exact hlongest u hu hku
  · rintro ⟨⟨t, ht, rfl, hk⟩, hlongest⟩
    refine ⟨t, ⟨ht, hk, fun u hu hku => ?_⟩, rfl⟩
    exact hlongest ⟨Token.text u, k⟩ ⟨u, hu, rfl, hku⟩ rfl

/-- A report of different tokens is complete exactly if no two of them have a position in common. -/
theorem complete_occurrences_iff (hnodup : (tokens.map Token.text).Nodup) :
    Complete tokens (occurrences tokens) ↔ Apart tokens := by
  have hascending := ascending_occurrences tokens
  have hpositions : ((occurrences tokens).map (·.position)).Nodup :=
    List.pairwise_map.2 (hascending.imp Nat.ne_of_lt)
  constructor
  · intro hcomplete
    refine apart_of_text_eq hnodup fun t ht u hu k hkt hku => ?_
    -- Both are reported at the position, where there is one entry.
    have hfirst := (hcomplete.mem_iff ⟨Token.text t, k⟩).2 ⟨t, ht, rfl, hkt⟩
    have hsecond := (hcomplete.mem_iff ⟨Token.text u, k⟩).2 ⟨u, hu, rfl, hku⟩
    exact congrArg Report.Occurrence.text (List.inj_on_of_nodup_map hpositions hfirst hsecond rfl)
  · intro hapart
    refine ⟨hpositions.of_map _, hascending.imp Nat.le_of_lt, fun o => ?_⟩
    simp only [mem_occurrences, hapart.lastWith_eq_some_iff, Occurs]
    constructor
    · rintro ⟨t, ⟨ht, hk⟩, htext⟩
      exact ⟨t, ht, htext, hk⟩
    · rintro ⟨t, ht, htext, hk⟩
      exact ⟨t, ⟨ht, hk⟩, htext⟩

end CommandLine

/-! ## Which tokens have positions in common -/

/-- Fragments gathered from pieces one behind the other have no positions in common. -/
theorem Fragment.apart_of_gather {pieces : List Piece} {tokens : List Fragment} (hne : ∀ p ∈ pieces, p.text ≠ [])
    (hpieces : pieces.Pairwise fun p q => p.position < q.position) (h : gather pieces = .ok tokens) :
    Sequence.Apart tokens := by
  have hstands := stands_of_gather hne h
  refine Sequence.apart_of_text_eq (nodup_gather h) fun t ht u hu k hkt hku => ?_
  have hfirst := (hstands ⟨t.text, k⟩).1 ⟨t, ht, rfl, hkt⟩
  have hsecond := (hstands ⟨u.text, k⟩).1 ⟨u, hu, rfl, hku⟩
  exact congrArg Piece.text (Piece.eq_of_position_eq hpieces hfirst hsecond rfl)

/-- Of pieces of a text at one place, those of one length are equal. -/
theorem Enumerates.text_eq {text : Text} {places : Nat → Nat → Prop} (h : Enumerates text tokens places)
    (ht : t ∈ tokens) (hu : u ∈ tokens) (hkt : k ∈ Token.positions t) (hku : k ∈ Token.positions u)
    (hlength : (Token.text t).length = (Token.text u).length) : Token.text t = Token.text u := by
  rw [← h.slice t ht k hkt, ← h.slice u hu k hku, hlength]

namespace LengthRange

variable {r : LengthRange} {text : Text} {grams : List Gram}

theorem bounds_of_make {least greatest : Nat} (h : make least greatest = .ok r) :
    r.least = least ∧ r.greatest = greatest := by
  unfold make at h
  split at h
  · split at h
    · cases h
      exact ⟨rfl, rfl⟩
    · cases h
  · cases h

theorem enumerates_of_grams (h : r.grams text = .ok grams) : Enumerates text grams fun i n =>
    (i = 0 ∧ r.least ≤ n ∧ n ≤ min r.greatest (text.length - 1)) ∨
    (1 ≤ i ∧ i ≤ text.length - r.least ∧ n = min r.greatest (text.length - i)) := by
  obtain ⟨grams', hgrams, -, henumerates⟩ := r.exists_enumeratedGrams text
  obtain rfl : grams' = grams := Except.ok.inj (hgrams.symm.trans h)
  exact henumerates

/-- The beginnings of a text become longer. -/
theorem pairwise_beginnings (r : LengthRange) (text : Text) :
    ((r.below text.length).map (text.take ·)).Pairwise fun x y => x.length < y.length := by
  have hbelow : (r.below text.length).Pairwise (· < ·) := List.pairwise_lt_range'
  refine List.pairwise_map.2 (hbelow.imp_of_mem fun {m n} hm hn hlt => ?_)
  have hm := bounds_of_mem_below hm
  have hn := bounds_of_mem_below hn
  rwa [List.length_take_of_le (by omega), List.length_take_of_le (by omega)]

/-- The n-grams of the start of a text come first. -/
theorem exists_beginnings_append (h : r.grams text = .ok grams) : ∃ others,
    (r.below text.length).map (text.take ·) ++ others = grams.map Token.text := by
  have htexts : (r.gramsAtStart text).map (·.text) = (r.below text.length).map (text.take ·) := by
    rw [gramsAtStart, List.map_map]
    rfl
  have hnodup : ((r.gramsAtStart text).map (·.text)).Nodup := by
    rw [htexts]
    refine (r.pairwise_beginnings text).imp ?_
    rintro x _ hlt rfl
    exact Nat.lt_irrefl _ hlt
  unfold LengthRange.grams Gram.gather TextAnalysis.gather at h
  rw [List.foldlM_append] at h
  obtain ⟨atStart, hstart, h⟩ := bind_eq_ok.1 h
  rw [← htexts, ← map_text_gather (fun _ _ ht => Gram.makeAt_eq_ok ht) hnodup hstart]
  exact prefix_of_addPieces (fun _ _ => rfl) h

/-- Where n-grams have a position in common, which is the start only, the later one is longer. -/
theorem growing_grams (h : r.grams text = .ok grams) : Sequence.Growing grams := by
  have henumerates := enumerates_of_grams h
  have hnodup := henumerates.nodup
  obtain ⟨others, htexts⟩ := exists_beginnings_append h
  -- A beginning of the text has only shorter ones in front of it.
  have horder : (grams.map Token.text).Pairwise fun x y =>
      y ∈ (r.below text.length).map (text.take ·) → x.length < y.length := by
    rw [← htexts] at hnodup ⊢
    have hdisjoint := List.disjoint_of_nodup_append hnodup
    refine List.pairwise_append.2 ⟨?_, ?_, ?_⟩
    · refine (r.pairwise_beginnings text).imp ?_
      intro x y hlt _
      exact hlt
    · exact List.pairwise_of_forall_mem_list fun x _ y hy hmem => absurd hy (hdisjoint hmem)
    · exact fun x _ y hy hmem => absurd hy (hdisjoint hmem)
  refine (List.pairwise_map.1 (hnodup.and horder)).imp_of_mem fun {t u} ht hu hboth k hkt hku => ?_
  obtain ⟨hne, hlonger⟩ := hboth
  have hfirst := (henumerates.occurs_iff k _).1 ⟨t, ht, hkt, rfl⟩
  have hsecond := (henumerates.occurs_iff k _).1 ⟨u, hu, hku, rfl⟩
  rcases hsecond with ⟨rfl, hleast, hgreatest⟩ | ⟨hpos, -, hlength⟩
  · have hslice := henumerates.slice u hu 0 hku
    have hleast' := r.least_pos
    exact hlonger (List.mem_map.2 ⟨_, mem_below_iff.2 (by omega), hslice⟩)
  · refine absurd (henumerates.text_eq ht hu hkt hku ?_) hne
    omega

/-- N-grams have a position in common exactly if more than one length fits at the start. -/
theorem apart_grams_iff (h : r.grams text = .ok grams) :
    Sequence.Apart grams ↔ min r.greatest (text.length - 1) ≤ r.least := by
  have henumerates := enumerates_of_grams h
  constructor
  · intro hapart
    by_contra hlt
    obtain ⟨t, ht, hkt, hshortest⟩ := (henumerates.occurs_iff 0 r.least).2 (by omega)
    obtain ⟨u, hu, hku, hlongest⟩ :=
      (henumerates.occurs_iff 0 (min r.greatest (text.length - 1))).2 (by omega)
    obtain rfl := hapart.unique ht hu hkt hku
    omega
  · intro hle
    refine Sequence.apart_of_text_eq henumerates.nodup fun t ht u hu k hkt hku => ?_
    have hfirst := (henumerates.occurs_iff k _).1 ⟨t, ht, hkt, rfl⟩
    have hsecond := (henumerates.occurs_iff k _).1 ⟨u, hu, hku, rfl⟩
    exact henumerates.text_eq ht hu hkt hku (by omega)

end LengthRange

/-! ## Reporting -/

namespace CommandLine

open Sequence

/-- The tokens that a cut makes of a text. Of n-grams only the texts and the positions are kept. -/
def cutTokens [PatternEngine] (cut : Cut) (text : Text) : Except CommandError (List Fragment) :=
  match cut with
  | .whitespace => (Delimiters.whitespace >>= fun d => d.tokenize text).mapError .error
  | .pattern source => (Delimiters.make source >>= fun d => d.tokenize text).mapError .error
  | .grams [least, greatest] =>
    ((LengthRange.make least greatest >>= fun r => r.grams text).map (List.map Gram.fragment)).mapError .error
  | .grams _ => .error .notTwoLengths
  | .fixed length => (FixedLength.make length >>= fun f => f.tokenize text).mapError .error

/-- The pieces of a text are reported as its tokens are. -/
theorem cutText_eq [PatternEngine] (cut : Cut) (text : Text) :
    cutText cut text = (cutTokens cut text).map occurrences := by
  match cut with
  | .whitespace => exact mapError_map ..
  | .pattern source => exact mapError_map ..
  | .grams [least, greatest] =>
    have hgrams : ∀ x : Except Error (List Gram), x.map occurrences = (x.map (List.map Gram.fragment)).map occurrences := by
      intro x
      rw [map_map_eq]
      simp only [occurrences_map (f := Gram.fragment) (fun _ => rfl) (fun _ => rfl)]
    exact (congrArg (·.mapError CommandError.error) (hgrams _)).trans (mapError_map ..)
  | .grams [] => rfl
  | .grams [_] => rfl
  | .grams (_ :: _ :: _ :: _) => rfl
  | .fixed length => exact mapError_map ..

/-- N-grams of several lengths stand at the start of a text. -/
def Cut.Overlaps (cut : Cut) (text : Text) : Prop :=
  ∃ least greatest, cut = .grams [least, greatest] ∧ least < min greatest (text.length - 1)

theorem Cut.overlaps_grams_iff {least greatest : Nat} {text : Text} :
    (Cut.grams [least, greatest]).Overlaps text ↔ least < min greatest (text.length - 1) := by
  constructor
  · rintro ⟨_, _, heq, hlt⟩
    cases heq
    exact hlt
  · exact fun hlt => ⟨least, greatest, rfl, hlt⟩

/-- Behind the start, all n-grams at one position have the same length. -/
theorem length_of_occurs_grams {r : LengthRange} {text : Text} {grams : List Gram} {o : Report.Occurrence}
    (h : r.grams text = .ok grams) (ho : Occurs (grams.map Gram.fragment) o) (hpos : 0 < o.position) :
    o.text.length = min r.greatest (text.length - o.position) := by
  obtain ⟨_, k⟩ := o
  obtain ⟨t, ht, rfl, hk⟩ := ho
  obtain ⟨gram, hgram, rfl⟩ := List.mem_map.1 ht
  rcases ((LengthRange.enumerates_of_grams h).occurs_iff k _).1 ⟨gram, hgram, hk, rfl⟩ with ⟨rfl, -⟩ | ⟨-, -, hlength⟩
  · cases hpos
  · exact hlength

/-- The tokens of a text have no positions in common, or they are n-grams. -/
theorem apart_or_grams_of_cutTokens [PatternEngine] {cut : Cut} {text : Text} {tokens : List Fragment}
    (h : cutTokens cut text = .ok tokens) :
    ((∀ bounds, cut ≠ .grams bounds) ∧ (tokens.map Token.text).Nodup ∧ Apart tokens) ∨
      ∃ r : LengthRange, ∃ grams, cut = .grams [r.least, r.greatest] ∧ r.grams text = .ok grams ∧
        tokens = grams.map Gram.fragment := by
  -- White space and patterns both cut at a delimiter.
  have hdelimited : ∀ {made : Except Error Delimiters},
      ((made >>= fun d => d.tokenize text).mapError CommandError.error) = .ok tokens →
        (tokens.map Token.text).Nodup ∧ Apart tokens := by
    intro made h
    obtain ⟨d, -, h⟩ := bind_eq_ok.1 (mapError_eq_ok.1 h)
    exact ⟨Fragment.nodup_gather h, Fragment.apart_of_gather (fun p hp => Delimiters.text_ne_nil_of_mem_filter hp)
      (d.ascending_pieces text) h⟩
  match cut with
  | .whitespace => exact .inl ⟨by simp, hdelimited h⟩
  | .pattern source => exact .inl ⟨by simp, hdelimited h⟩
  | .grams [least, greatest] =>
    right
    obtain ⟨grams, hmade, rfl⟩ := map_eq_ok.1 (mapError_eq_ok.1 h)
    obtain ⟨r, hr, hgrams⟩ := bind_eq_ok.1 hmade
    obtain ⟨rfl, rfl⟩ := LengthRange.bounds_of_make hr
    exact ⟨r, grams, rfl, hgrams, rfl⟩
  | .fixed length =>
    obtain ⟨f, -, h⟩ := bind_eq_ok.1 (mapError_eq_ok.1 h)
    unfold FixedLength.tokenize at h
    split at h
    · rename_i hlength
      have htiles := f.tiles_pieces hlength
      exact .inl ⟨by simp, Fragment.nodup_gather h, Fragment.apart_of_gather htiles.text_ne_nil htiles.ascending.1 h⟩
    · cases h

/-- **Reported occurrences.** When a text was cut, the report has one entry for each position of a token, in ascending
order: the longest text that stands there. This is every occurrence of every token, unless n-grams of several lengths
stand at the start of the text; then all but the longest of these are left out, and nothing else. The command writes the
report in the format that is asked for. -/
theorem cutText_longest [PatternEngine] (cut : Cut) (text : Text) (tokens : List Fragment)
    (h : cutTokens cut text = .ok tokens) : ∃ reported, cutText cut text = .ok reported ∧
      (reported.Pairwise fun o o' => o.position < o'.position) ∧
      (∀ o, o ∈ reported ↔
        Occurs tokens o ∧ ∀ o', Occurs tokens o' → o'.position = o.position → o'.text.length ≤ o.text.length) ∧
      (Complete tokens reported ↔ ¬ cut.Overlaps text) ∧
      (∀ o, Occurs tokens o → 0 < o.position → o ∈ reported) ∧
      ∀ c asked format, formatOf c asked = .ok format → runTokenize c text cut asked =
        .ok (Report.write format c.prettyJson Report.Occurrence.toLine Report.Occurrence.toRecord reported) := by
  have hreported : cutText cut text = .ok (occurrences tokens) := by
    rw [cutText_eq, h]
    rfl
  have hwritten : ∀ c asked format, formatOf c asked = .ok format → runTokenize c text cut asked =
      .ok (Report.write format c.prettyJson Report.Occurrence.toLine Report.Occurrence.toRecord (occurrences tokens)) := by
    intro c asked format hformat
    unfold runTokenize
    rw [hformat, hreported]
    rfl
  refine ⟨_, hreported, ascending_occurrences tokens, ?_⟩
  -- Only n-grams have positions in common, and those behind the start of the text have one length at each position.
  rcases apart_or_grams_of_cutTokens h with ⟨hcut, hnodup, hapart⟩ | ⟨r, grams, rfl, hgrams, rfl⟩
  · have hcomplete := (complete_occurrences_iff hnodup).2 hapart
    have hoverlaps : ¬ cut.Overlaps text := fun ⟨_, _, hgrams, _⟩ => hcut _ hgrams
    refine ⟨fun o => mem_occurrences_iff_longest hapart.growing, iff_of_true hcomplete hoverlaps, ?_, hwritten⟩
    exact fun o ho _ => (hcomplete.mem_iff o).2 ho
  · have hgrowing : Growing (grams.map Gram.fragment) := List.pairwise_map.2 (LengthRange.growing_grams hgrams)
    have hnodup : ((grams.map Gram.fragment).map Token.text).Nodup := by
      rw [List.map_map]
      exact (LengthRange.enumerates_of_grams hgrams).nodup
    refine ⟨fun o => mem_occurrences_iff_longest hgrowing, ?_, fun o ho hpos => ?_, hwritten⟩
    · rw [complete_occurrences_iff hnodup, Cut.overlaps_grams_iff, not_lt]
      exact List.pairwise_map.trans (LengthRange.apart_grams_iff hgrams)
    · refine (mem_occurrences_iff_longest hgrowing).2 ⟨ho, fun o' ho' hposition => ?_⟩
      have hlength := length_of_occurs_grams hgrams ho hpos
      have hlength' := length_of_occurs_grams hgrams ho' (hposition ▸ hpos)
      rw [hlength, hlength', hposition]

/-- With one and two characters, and with two characters only. -/
theorem cutText_longest_abc :
    (∃ tokens reported, cutTokens (.grams [1, 2]) "abc".toList = .ok tokens ∧
      cutText (.grams [1, 2]) "abc".toList = .ok reported ∧ Occurs tokens ⟨"bc".toList, 1⟩ ∧
      ⟨"bc".toList, 1⟩ ∈ reported ∧ runTokenize {} "abc".toList (.grams [1, 2]) (some .text) =
        .ok (reported.flatMap Report.Occurrence.toLine)) ∧
    ∃ tokens reported, cutTokens (.grams [2, 2]) "abc".toList = .ok tokens ∧
      cutText (.grams [2, 2]) "abc".toList = .ok reported ∧ Complete tokens reported := by
  constructor
  · obtain ⟨tokens, htokens⟩ : ∃ tokens, cutTokens (.grams [1, 2]) "abc".toList = .ok tokens := ⟨_, rfl⟩
    obtain ⟨reported, hreported, -, -, -, hbehind, hwritten⟩ := cutText_longest _ _ tokens htokens
    have hoccurs : Occurs tokens ⟨"bc".toList, 1⟩ := by
      cases htokens
      exact ⟨⟨"bc".toList, .single 1, by decide⟩, by decide, rfl, by decide⟩
    exact ⟨tokens, reported, htokens, hreported, hoccurs, hbehind _ hoccurs (by decide), hwritten {} (some .text) .text rfl⟩
  · obtain ⟨tokens, htokens⟩ : ∃ tokens, cutTokens (.grams [2, 2]) "abc".toList = .ok tokens := ⟨_, rfl⟩
    obtain ⟨reported, hreported, -, -, hcomplete, -⟩ := cutText_longest _ _ tokens htokens
    refine ⟨tokens, reported, htokens, hreported, hcomplete.2 ?_⟩
    rintro ⟨least, greatest, heq, hlt⟩
    cases heq
    exact absurd hlt (by decide)

/-- The first character is one of the n-grams, and it is not reported. -/
theorem cutText_shorterAtStart : ∃ tokens reported, cutTokens (.grams [1, 2]) "abc".toList = .ok tokens ∧
    cutText (.grams [1, 2]) "abc".toList = .ok reported ∧
    reported = [⟨"ab".toList, 0⟩, ⟨"bc".toList, 1⟩, ⟨"c".toList, 2⟩] ∧
    Occurs tokens ⟨"a".toList, 0⟩ ∧ ¬ Complete tokens reported := by
  obtain ⟨tokens, htokens⟩ : ∃ tokens, cutTokens (.grams [1, 2]) "abc".toList = .ok tokens := ⟨_, rfl⟩
  have hoccurs : Occurs tokens ⟨"a".toList, 0⟩ := by
    cases htokens
    exact ⟨⟨"a".toList, .single 0, by decide⟩, by decide, rfl, by decide⟩
  refine ⟨tokens, _, htokens, by decide, rfl, hoccurs, fun hcomplete => ?_⟩
  exact absurd ((hcomplete.mem_iff _).2 hoccurs) (by decide)

end CommandLine

end TextAnalysis
