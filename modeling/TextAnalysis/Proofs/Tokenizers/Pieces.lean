/-
# Fragments as pieces of a text

Fragments that were gathered from pieces of a text are all different, and put in order they are these pieces again:
there is one for every position, and what stands at a position is the piece of the text that starts there. If the pieces
cover the text, nothing of it is lost.
-/
import Mathlib.Data.List.Nodup
import TextAnalysis.Proofs.Gathering
import TextAnalysis.Proofs.Tokenizers.Texts

namespace TextAnalysis

/-- Without a separator, texts are joined by putting one after the other. -/
theorem intercalate_nil {α : Type} (l : List (List α)) : ([] : List α).intercalate l = l.flatten := by
  unfold List.intercalate
  induction l with
  | nil => rfl
  | cons x l ih =>
    cases l with
    | nil => rfl
    | cons y l =>
      rw [List.intersperse_cons_cons, List.flatten_cons, List.flatten_cons, ih, List.nil_append]
      rfl

namespace Fragment

/-- All positions of some fragments, in ascending order. -/
def allPositions (tokens : List Fragment) : Positions :=
  tokens.foldl (fun positions t => positions.union t.positions) .empty

/-- Fragments in order, each with the position at which it stands there. -/
def inOrder (tokens : List Fragment) : List Piece :=
  List.zipWith (fun t position => ⟨t.text, position⟩) (Sequence.sorted tokens).tokens (allPositions tokens).toList

/-- Different fragments that are pieces of a text where they stand: in order there is one for every position, and it is
what the text has from that position on. -/
structure StandIn (text : Text) (tokens : List Fragment) : Prop where
  nodup : (tokens.map (·.text)).Nodup
  nonempty : ∀ t ∈ tokens, t.text ≠ []
  size_eq : (allPositions tokens).toList.length = (Sequence.sorted tokens).size
  slice : ∀ {i : Nat} {t : Fragment} {position : Nat}, (Sequence.sorted tokens).tokens[i]? = some t →
    (allPositions tokens).toList[i]? = some position → (text.drop position).take t.text.length = t.text

/-! ## Different texts -/

theorem makeAt_eq_ok {text : Text} {position : Nat} {t : Fragment} (h : makeAt text position = .ok t) :
    t.text = text ∧ t.positions = .single position := by
  unfold makeAt make at h
  split at h
  · cases h
  · cases h
    exact ⟨rfl, rfl⟩

/-- Gathered fragments have different texts. -/
theorem nodup_gather {pieces : List Piece} {tokens : List Fragment} (h : gather pieces = .ok tokens) :
    (tokens.map (·.text)).Nodup :=
  TextAnalysis.nodup_gather (fun _ _ => rfl) (fun _ _ ht => (makeAt_eq_ok ht).1) h

/-- Gathered fragments have positions. -/
theorem exists_position_of_gather {pieces : List Piece} {tokens : List Fragment} (h : gather pieces = .ok tokens) :
    ∀ t ∈ tokens, ∃ x, x ∈ t.positions := by
  refine forall_mem_of_gather (P := fun t : Fragment => ∃ x, x ∈ t.positions) ?_ ?_ h
  · exact fun t position _ => ⟨position, Positions.mem_insert.2 (.inl rfl)⟩
  · intro p _ t hmake
    rw [(makeAt_eq_ok hmake).2]
    exact ⟨p.position, Positions.mem_single.2 rfl⟩

/-! ## Positions -/

theorem mem_allPositions {tokens : List Fragment} {x : Nat} :
    x ∈ allPositions tokens ↔ ∃ t ∈ tokens, x ∈ t.positions :=
  Positions.mem_foldl_union

section

variable {tokens : List Fragment} {pieces : List Piece} (hstands : ∀ q, Stands tokens q ↔ q ∈ pieces)
  (hpieces : pieces.Pairwise fun p q => p.position < q.position)

include hstands hpieces

/-- The positions of fragments are those of the pieces that stand among them. -/
theorem toList_allPositions : (allPositions tokens).toList = pieces.map (·.position) := by
  have hirrefl : Std.Irrefl fun m n : Nat => m < n := ⟨Nat.lt_irrefl⟩
  refine List.Pairwise.eq_of_mem_iff (allPositions tokens).ascending (List.pairwise_map.2 hpieces) fun x => ?_
  show x ∈ allPositions tokens ↔ _
  rw [mem_allPositions, List.mem_map]
  constructor
  · rintro ⟨t, ht, hx⟩
    exact ⟨⟨t.text, x⟩, (hstands _).1 ⟨t, ht, rfl, hx⟩, rfl⟩
  · rintro ⟨p, hp, rfl⟩
    obtain ⟨t, ht, -, hx⟩ := (hstands p).2 hp
    exact ⟨t, ht, hx⟩

/-- In order, fragments are the pieces that stand among them. -/
theorem inOrder_eq : inOrder tokens = pieces := by
  have hzip : inOrder tokens = List.zipWith Piece.mk ((Sequence.sorted tokens).tokens.map (·.text))
      (allPositions tokens).toList := by
    rw [List.zipWith_map_left]
    rfl
  rw [hzip, map_text_sorted hstands hpieces, toList_allPositions hstands hpieces, List.zipWith_map, List.zipWith_self]
  exact List.map_id' pieces

theorem text_sorted : (Sequence.sorted tokens).text = (pieces.map (·.text)).flatten := by
  rw [← map_text_sorted hstands hpieces]
  exact intercalate_nil _

end

/-- Fragments gathered from pieces of a text, one behind the other, stand in that text. -/
theorem standIn_of_gather {text : Text} {pieces : List Piece} {tokens : List Fragment}
    (h : gather pieces = .ok tokens) (hne : ∀ p ∈ pieces, p.text ≠ [])
    (hpieces : pieces.Pairwise fun p q => p.position < q.position)
    (hslices : ∀ p ∈ pieces, (text.drop p.position).take p.text.length = p.text) :
    StandIn text tokens ∧ inOrder tokens = pieces ∧ (Sequence.sorted tokens).text = (pieces.map (·.text)).flatten := by
  have hstands := stands_of_gather hne h
  -- In order the tokens have the texts and the positions of the pieces.
  have htexts := map_text_sorted hstands hpieces
  have hpositions := toList_allPositions hstands hpieces
  refine ⟨⟨nodup_gather h, fun t _ => t.nonempty, ?_, ?_⟩, inOrder_eq hstands hpieces, text_sorted hstands hpieces⟩
  · have hlength := congrArg List.length htexts
    rw [List.length_map, List.length_map] at hlength
    rw [hpositions, List.length_map]
    exact hlength.symm
  · intro i t position ht hposition
    rw [hpositions, List.getElem?_map] at hposition
    obtain ⟨p, hp, rfl⟩ := Option.map_eq_some_iff.1 hposition
    have htext := congrArg (·[i]?) htexts
    rw [List.getElem?_map, List.getElem?_map, ht, hp] at htext
    have htext : t.text = p.text := Option.some.inj htext
    rw [htext]
    exact hslices p (List.mem_of_getElem? hp)

end Fragment

/-! ## Covering a text -/

/-- Pieces that are not empty, the first at a position and each of the others where the one before it ends, and that are
a text together. -/
inductive Tiles : Nat → Text → List Piece → Prop
  | nil (start : Nat) : Tiles start [] []
  | cons {start : Nat} (text : Text) {rest : Text} {pieces : List Piece} (hne : text ≠ [])
      (hrest : Tiles (start + text.length) rest pieces) : Tiles start (text ++ rest) (⟨text, start⟩ :: pieces)

namespace Tiles

variable {start : Nat} {text : Text} {pieces : List Piece}

theorem single (start : Nat) (hne : text ≠ []) : Tiles start text [⟨text, start⟩] := by
  simpa using cons text hne (nil (start + text.length))

/-- A beginning of a text and pieces that cover the rest cover the text. -/
theorem cons_take {n : Nat} (hn : 0 < n) (hle : n ≤ text.length) (h : Tiles (start + n) (text.drop n) pieces) :
    Tiles start text (⟨text.take n, start⟩ :: pieces) := by
  have hlength : (text.take n).length = n := List.length_take_of_le hle
  have hrest : Tiles (start + (text.take n).length) (text.drop n) pieces := by rwa [hlength]
  have hcons := cons (text.take n) (List.ne_nil_of_length_pos (by omega)) hrest
  rwa [List.take_append_drop] at hcons

theorem text_ne_nil (h : Tiles start text pieces) : ∀ p ∈ pieces, p.text ≠ [] := by
  induction h with
  | nil => simp
  | cons text hne _ ih => exact List.forall_mem_cons.2 ⟨hne, ih⟩

theorem flatten_eq (h : Tiles start text pieces) : (pieces.map (·.text)).flatten = text := by
  induction h with
  | nil => rfl
  | cons text _ _ ih => rw [List.map_cons, List.flatten_cons, ih]

/-- Pieces that cover a text start one behind the other, the first at the start. -/
theorem ascending (h : Tiles start text pieces) :
    (pieces.Pairwise fun p q => p.position < q.position) ∧ ∀ p ∈ pieces, start ≤ p.position := by
  induction h with
  | nil => simp
  | cons text hne _ ih =>
    obtain ⟨hpairwise, hfrom⟩ := ih
    have hpos : 0 < text.length := List.length_pos_of_ne_nil hne
    refine ⟨List.pairwise_cons.2 ⟨fun p hp => ?_, hpairwise⟩, List.forall_mem_cons.2 ⟨Nat.le_refl _, fun p hp => ?_⟩⟩
    · exact Nat.lt_of_lt_of_le (Nat.lt_add_of_pos_right hpos) (hfrom p hp)
    · have hp := hfrom p hp
      omega

/-- Pieces that cover a text are what the text has at their positions. -/
theorem slice (h : Tiles start text pieces) :
    ∀ p ∈ pieces, (text.drop (p.position - start)).take p.text.length = p.text := by
  induction h with
  | nil => simp
  | @cons start text rest pieces hne hrest ih =>
    refine List.forall_mem_cons.2 ⟨?_, fun p hp => ?_⟩
    · rw [Nat.sub_self, List.drop_zero]
      exact List.take_left
    · have hstart := hrest.ascending.2 p hp
      have hsplit : p.position - start = text.length + (p.position - (start + text.length)) := by omega
      rw [hsplit, List.drop_append, List.drop_eq_nil_of_le (Nat.le_add_right _ _), List.nil_append,
        Nat.add_sub_cancel_left]
      exact ih p hp

/-- Fragments gathered from pieces that cover a text stand in that text, cover it in order, and are it together. -/
theorem gathered {tokens : List Fragment} (h : Tiles 0 text pieces) (hgather : Fragment.gather pieces = .ok tokens) :
    Fragment.StandIn text tokens ∧ Tiles 0 text (Fragment.inOrder tokens) ∧ (Sequence.sorted tokens).text = text := by
  obtain ⟨hstand, horder, htext⟩ :=
    Fragment.standIn_of_gather hgather h.text_ne_nil h.ascending.1 fun p hp => h.slice p hp
  exact ⟨hstand, horder.symm ▸ h, htext.trans h.flatten_eq⟩

end Tiles

end TextAnalysis
