/-
# Cutting without losses

Pieces of one length and the pieces around keys cover a text, so its fragments in order are the text again. Delimiters
leave the parts between their matches, which with the matches between them are the text again. The matches are given by
offsets in bytes, and the loop over them counts characters beside the bytes.
-/
import TextAnalysis.Pattern.Engine
import TextAnalysis.Proofs.Delimiting
import TextAnalysis.Proofs.Tokenizers.Collecting
import TextAnalysis.Proofs.Tokenizers.Keys
import TextAnalysis.Tokenizer.FixedLength

namespace TextAnalysis

/-! ## Equal lengths -/

/-- Pieces of one length cover a text whose length is a multiple of it. -/
theorem FixedLength.tiles_pieces (f : FixedLength) {text : Text} (h : text.length % f.length = 0) :
    Tiles 0 text (f.pieces text) := by
  -- By induction on the number of pieces, from any start.
  have hfrom : ∀ count start (text : Text), text.length = count * f.length →
      Tiles start text ((List.range count).map fun i =>
        ⟨(text.drop (i * f.length)).take f.length, start + i * f.length⟩) := by
    intro count
    induction count with
    | zero =>
      intro start text hlength
      rw [List.eq_nil_of_length_eq_zero (hlength.trans (Nat.zero_mul _))]
      exact .nil start
    | succ count ih =>
      intro start text hlength
      rw [Nat.succ_mul] at hlength
      have hrest := ih (start + f.length) (text.drop f.length) (by rw [List.length_drop]; omega)
      rw [List.range_succ_eq_map, List.map_cons, List.map_map, Nat.zero_mul, List.drop_zero]
      refine .cons_take f.length_pos (by omega) ?_
      refine (congrArg (Tiles _ _) (List.map_congr_left fun i _ => ?_)).mp hrest
      rw [Function.comp_apply, Nat.succ_mul, List.drop_drop, Nat.add_comm (i * _), Nat.add_assoc]
  have hlength : text.length = text.length / f.length * f.length := (Nat.div_mul_cancel (Nat.dvd_of_mod_eq_zero h)).symm
  simpa [pieces, Piece.ofSlice] using hfrom _ 0 text hlength

/-! ## Matches -/

/-- Fragments that stand in a text and are, in order, the parts between matches that are not empty. All parts with the
matches between them are the text. -/
structure Fragment.Between (text : Text) (ms : List ByteSpan) (tokens : List Fragment) : Prop where
  standIn : StandIn text tokens
  inOrder_eq : inOrder tokens = (gaps text ms).filter (! ·.text.isEmpty)
  weave_eq : weave ((gaps text ms).map (·.text)) (matched text ms) = text

/-- Nothing more is needed of what finds the matches than that these stand in order. -/
theorem Fragment.between_of_gather {text : Text} {ms : List ByteSpan} {tokens : List Fragment}
    (hms : ByteSpan.Ordered text 0 ms)
    (h : gather ((Delimiters.piecesFrom text 0 0 ms).filter (! ·.text.isEmpty)) = .ok tokens) :
    Between text ms tokens := by
  obtain ⟨hspaced, hpieces, hgaps⟩ := Delimiters.piecesFrom_of_ordered hms
  rw [hpieces] at h
  obtain ⟨hstand, horder, -⟩ := standIn_of_gather h (fun p hp => Delimiters.text_ne_nil_of_mem_filter hp)
    (Delimiters.ascending_piecesAround hspaced).1
    fun p hp => Delimiters.slice_of_mem_piecesAround (List.mem_of_mem_filter hp)
  rw [← hpieces, ← hgaps] at horder
  exact ⟨hstand, horder, Delimiters.weave_gaps hms⟩

/-! ### The loop over the matches -/

namespace Delimiters

open Collector (sumUpTo sumUpTo_eq)

/-- The characters of a text between two offsets, which must stand between characters, the first not behind the
second. -/
def sliceBytes (text : Text) (start finish : Nat) : Except CutFault Text :=
  if start ≤ finish ∧ text.isBoundary start = true ∧ text.isBoundary finish = true then
    .ok (text.bytesBetween start finish)
  else .error .outOfBounds

/-- Adds a fragment at a position, unless it is empty. -/
def addFragment (c : Collector Fragment) (fragment : Text) (position : Nat) : Except CutFault (Collector Fragment) :=
  if fragment.isEmpty then .ok c else c.add (fun p => Fragment.makeAt p.text p.position) ⟨fragment, position⟩

/-- The loop over the matches. It keeps the offset in bytes behind the last match, at which it cuts, and beside it the
number of characters in front of that offset, which is the position of the next fragment. -/
def cutInPlace (text : Text) : Nat → Nat → List ByteSpan → Collector Fragment → Except CutFault (Collector Fragment)
  | start, position, [], c => do
    let fragment ← sliceBytes text start text.byteLength
    addFragment c fragment position
  | start, position, m :: later, c => do
    let fragment ← sliceBytes text start m.start
    let c ← addFragment c fragment position
    let delimiter ← sliceBytes text m.start m.finish
    let length ← sumUpTo text.length fragment.length delimiter.length
    let position ← sumUpTo text.length position length
    cutInPlace text m.finish position later c

/-- The fragments of a text between matches, cut one after the other. -/
def tokensInPlace (text : Text) (ms : List ByteSpan) : Except CutFault (List Fragment) := do
  let found ← cutInPlace text 0 0 ms .empty
  return found.tokens

theorem sliceBytes_byteOffset (text : Text) {i k : Nat} (h : i ≤ k) :
    sliceBytes text (text.byteOffset i) (text.byteOffset k) = .ok ((text.drop i).take (k - i)) := by
  rw [sliceBytes, if_pos ⟨text.byteOffset_mono h, text.isBoundary_byteOffset i, text.isBoundary_byteOffset k⟩,
    Text.bytesBetween_byteOffset text h]

/-- A fragment is added as one of the pieces that are not empty. -/
theorem addFragment_bind (c : Collector Fragment) (p : Piece) (pieces : List Piece) :
    (addFragment c p.text p.position >>= fun c => (pieces.filter (! ·.text.isEmpty)).foldlM
      (Collector.add fun p => Fragment.makeAt p.text p.position) c) =
    ((p :: pieces).filter (! ·.text.isEmpty)).foldlM (Collector.add fun p => Fragment.makeAt p.text p.position) c := by
  unfold addFragment
  rw [List.filter_cons]
  cases htext : p.text.isEmpty with
  | true => rfl
  | false => rfl

/-- Every slice of the loop stands between characters, and the number that it counts is the position at which it
cuts. -/
theorem cutInPlace_eq {text : Text} {start : Nat} {ms : List (Nat × Nat)} (hstart : start ≤ text.length)
    (h : Spaced text.length start ms) (c : Collector Fragment) :
    cutInPlace text (text.byteOffset start) start (ms.map (ByteSpan.ofPositions text)) c =
      ((piecesAround text start ms).filter (! ·.text.isEmpty)).foldlM
        (Collector.add fun p => Fragment.makeAt p.text p.position) c := by
  induction ms generalizing start c with
  | nil =>
    rw [piecesAround, ← addFragment_bind, List.map_nil, cutInPlace, ← Text.byteOffset_length,
      sliceBytes_byteOffset text hstart, ok_bind]
    exact (bind_pure _).symm
  | cons m later ih =>
    obtain ⟨i, k⟩ := m
    obtain ⟨hi, hik, hk, hlater⟩ := h
    have hlength : ((text.drop start).take (i - start)).length = i - start := by
      rw [List.length_take, List.length_drop]
      omega
    have hlength' : ((text.drop i).take (k - i)).length = k - i := by
      rw [List.length_take, List.length_drop]
      omega
    rw [piecesAround, ← addFragment_bind, List.map_cons, cutInPlace]
    simp only [ByteSpan.ofPositions]
    rw [sliceBytes_byteOffset text hi, ok_bind]
    refine bind_congr fun c => ?_
    rw [sliceBytes_byteOffset text hik, ok_bind, hlength, hlength', sumUpTo_eq (by omega), ok_bind,
      sumUpTo_eq (by omega), ok_bind, show start + (i - start + (k - i)) = k by omega]
    exact ih hk hlater c

/-- The loop over matches in order gathers the pieces around them. -/
theorem tokensInPlace_eq {text : Text} {ms : List ByteSpan} (h : ByteSpan.Ordered text 0 ms) {tokens : List Fragment}
    (htokens : Fragment.gather ((piecesFrom text 0 0 ms).filter (! ·.text.isEmpty)) = .ok tokens) :
    tokensInPlace text ms = .ok tokens := by
  obtain ⟨hspaced, heq⟩ := @ByteSpan.exists_positions_of_ordered text 0 _ (Nat.zero_le _) h
  obtain ⟨last, hlast, hfound, -⟩ := Collector.exists_foldlM_add (fun _ _ => rfl)
    (fun _ _ ht => (Fragment.makeAt_eq_ok ht).1) Collector.indexed_empty htokens
  rw [(piecesFrom_of_ordered h).2.1, ← cutInPlace_eq (Nat.zero_le _) hspaced, heq] at hlast
  unfold tokensInPlace
  have hloop : cutInPlace text 0 0 ms .empty = .ok last := hlast
  rw [hloop, ok_bind, hfound]
  rfl

end Delimiters

/-! ## Cutting -/

/-- Whenever a text is cut, the fragments are different and not empty, and in order there is one for every position:
what the text has there. At matches in order, whatever finds them, and so at a delimiter pattern of any engine, they are
the parts between the matches that are not empty, and all parts with the matches between them are the text; the loop
that counts characters beside bytes cuts only between characters and finds the same fragments. With one length, or
around keys whatever a measure says of them, they cover the text one after the other. Around keys every round takes at
least one character, and more rounds than the text has characters make no difference. -/
theorem tokenize_lossless :
    (∀ text ms tokens, ByteSpan.Ordered text 0 ms →
      Fragment.gather ((Delimiters.piecesFrom text 0 0 ms).filter (! ·.text.isEmpty)) = .ok tokens →
        Fragment.Between text ms tokens ∧ Delimiters.tokensInPlace text ms = .ok tokens) ∧
    (∀ (d : Delimiters) text tokens, d.tokenize text = .ok tokens →
      Fragment.Between text (d.pattern.find text) tokens ∧
        Delimiters.tokensInPlace text (d.pattern.find text) = .ok tokens) ∧
    (∀ (f : FixedLength) text tokens, f.tokenize text = .ok tokens →
      Fragment.StandIn text tokens ∧ Tiles 0 text (Fragment.inOrder tokens) ∧ (Sequence.sorted tokens).text = text) ∧
    (∀ (k : KeyTokenizer) text tokens, k.tokenize text = .ok tokens →
      Fragment.StandIn text tokens ∧ Tiles 0 text (Fragment.inOrder tokens) ∧ (Sequence.sorted tokens).text = text) ∧
    ∀ (k : KeyTokenizer) text,
      (∀ found, k.closest text = .ok (some found) → 0 < found.length ∧ found.start + found.length ≤ text.length) ∧
        ∀ steps, text.length ≤ steps → k.cut steps 0 text = k.cut text.length 0 text := by
  have hmatches : ∀ text ms tokens, ByteSpan.Ordered text 0 ms →
      Fragment.gather ((Delimiters.piecesFrom text 0 0 ms).filter (! ·.text.isEmpty)) = .ok tokens →
        Fragment.Between text ms tokens ∧ Delimiters.tokensInPlace text ms = .ok tokens :=
    fun text ms tokens hms h => ⟨Fragment.between_of_gather hms h, Delimiters.tokensInPlace_eq hms h⟩
  refine ⟨hmatches, fun d text tokens h => hmatches text _ tokens (d.pattern.ordered text) h, fun f text tokens h => ?_,
    fun k text tokens h => ?_, fun k text => ⟨?_, ?_⟩⟩
  · unfold FixedLength.tokenize at h
    split at h
    · rename_i hlength
      exact (f.tiles_pieces hlength).gathered h
    · cases h
  · obtain ⟨pieces, hcut, h⟩ := bind_eq_ok.1 h
    exact (KeyTokenizer.tiles_cut (Nat.le_refl _) hcut).gathered h
  · exact fun found hfound => KeyTokenizer.fits_closest hfound
  · exact fun steps hsteps => KeyTokenizer.cut_eq hsteps (Nat.le_refl _)

/-- The hyphen of "äb-äb" as a match, with matches of nothing in front of it and behind it. -/
def aroundHyphen : List ByteSpan :=
  [⟨2, 2⟩, ⟨3, 4⟩, ⟨4, 4⟩]

/-- Cuts at commas. -/
def commas : Delimiters :=
  ⟨",".toList, Pattern.compiled (.one (.single ','))⟩

/-- Cuts into pairs of characters. -/
def pairs : FixedLength :=
  ⟨2, by decide⟩

/-- Cuts around what differs from a key by one edit at most. -/
def nearOne : KeyTokenizer :=
  { keys := ["one".toList]
    tolerance := some ⟨(Metric.levenshtein .distance).measure, .one⟩
    nonempty := by decide }

/-- Fragments that occur more than once, characters of two bytes, parts that are empty, and a match of nothing. -/
theorem tokenize_lossless_repeated :
    (∃ tokens, ByteSpan.Ordered "äb-äb".toList 0 aroundHyphen ∧
      Fragment.gather ((Delimiters.piecesFrom "äb-äb".toList 0 0 aroundHyphen).filter (! ·.text.isEmpty)) =
        .ok tokens ∧
      Fragment.Between "äb-äb".toList aroundHyphen tokens ∧
      Delimiters.tokensInPlace "äb-äb".toList aroundHyphen = .ok tokens) ∧
    (∃ tokens, commas.tokenize "äb,,ä,äb".toList = .ok tokens ∧
      Fragment.Between "äb,,ä,äb".toList (commas.pattern.find "äb,,ä,äb".toList) tokens ∧
        Delimiters.tokensInPlace "äb,,ä,äb".toList (commas.pattern.find "äb,,ä,äb".toList) = .ok tokens) ∧
    (∃ tokens, pairs.tokenize "ababcd".toList = .ok tokens ∧
      Fragment.StandIn "ababcd".toList tokens ∧ Tiles 0 "ababcd".toList (Fragment.inOrder tokens) ∧
        (Sequence.sorted tokens).text = "ababcd".toList) ∧
    ∃ tokens, nearOne.tokenize "oneone".toList = .ok tokens ∧
      Fragment.StandIn "oneone".toList tokens ∧ Tiles 0 "oneone".toList (Fragment.inOrder tokens) ∧
        (Sequence.sorted tokens).text = "oneone".toList := by
  obtain ⟨hmatches, hcommas, hpairs, hkeys, -⟩ := tokenize_lossless
  have hordered : ByteSpan.Ordered "äb-äb".toList 0 aroundHyphen := by
    simp only [aroundHyphen, ByteSpan.Ordered]
    decide
  obtain ⟨tokens, h⟩ : ∃ tokens, Fragment.gather ((Delimiters.piecesFrom "äb-äb".toList 0 0 aroundHyphen).filter
      (! ·.text.isEmpty)) = .ok tokens := ⟨_, rfl⟩
  obtain ⟨tokens₁, h₁, -⟩ := commas.exists_tokenize "äb,,ä,äb".toList
  obtain ⟨tokens₂, h₂⟩ : ∃ tokens, pairs.tokenize "ababcd".toList = .ok tokens := ⟨_, rfl⟩
  have hok : (nearOne.tokenize "oneone".toList).isOk = true := by decide +kernel
  cases h₃ : nearOne.tokenize "oneone".toList with
  | error e =>
    rw [h₃] at hok
    cases hok
  | ok tokens₃ =>
    exact ⟨⟨tokens, hordered, h, hmatches _ _ _ hordered h⟩, ⟨tokens₁, h₁, hcommas _ _ _ h₁⟩,
      ⟨tokens₂, h₂, hpairs _ _ _ h₂⟩, tokens₃, rfl, hkeys _ _ _ h₃⟩

end TextAnalysis
