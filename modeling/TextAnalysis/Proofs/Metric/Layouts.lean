/-
# Layouts

Two texts laid side by side, block by block. A swap stands in a block of its own, with the characters that are deleted
between the two before they are swapped and those that are inserted between them afterwards. Layouts cost as much as
edits: the edits can be done block by block, and an edit of the second text makes a layout dearer by one at most, even
if it falls into a block of a swap.
-/
import Mathlib.Data.List.Induction
import TextAnalysis.Proofs.Metric.Edits

namespace TextAnalysis

/-- Two texts side by side with the cost of their differences, built from left to right. -/
inductive Layout (swaps : Bool) : Nat → Text → Text → Prop
  | nil : Layout swaps 0 [] []
  | insert {n : Nat} {a b : Text} (y : Char) (h : Layout swaps n a b) : Layout swaps (n + 1) a (b ++ [y])
  | delete {n : Nat} {a b : Text} (x : Char) (h : Layout swaps n a b) : Layout swaps (n + 1) (a ++ [x]) b
  | keep {n : Nat} {a b : Text} (x : Char) (h : Layout swaps n a b) : Layout swaps n (a ++ [x]) (b ++ [x])
  | substitute {n : Nat} {a b : Text} (x y : Char) (h : Layout swaps n a b) :
      Layout swaps (n + 1) (a ++ [x]) (b ++ [y])
  | exchange {n : Nat} {a b : Text} (x y : Char) (u w : Text) (hswaps : swaps = true) (h : Layout swaps n a b) :
      Layout swaps (n + (u.length + w.length + 1)) (a ++ x :: (u ++ [y])) (b ++ y :: (w ++ [x]))

namespace Layout

variable {swaps : Bool} {m n : Nat} {a b a' b' : Text}

/-! ## Blocks in a row -/

/-- Layouts are put one after the other. -/
theorem append (h : Layout swaps m a b) (h' : Layout swaps n a' b') : Layout swaps (m + n) (a ++ a') (b ++ b') := by
  induction h' with
  | nil => simpa using h
  | insert y _ ih => simpa [Nat.add_assoc] using ih.insert y
  | delete x _ ih => simpa [Nat.add_assoc] using ih.delete x
  | keep x _ ih => simpa using ih.keep x
  | substitute x y _ ih => simpa [Nat.add_assoc] using ih.substitute x y
  | exchange x y u w hswaps _ ih => simpa [Nat.add_assoc] using ih.exchange x y u w hswaps

theorem insertAll (w : Text) : Layout swaps w.length [] w := by
  induction w using List.reverseRecOn with
  | nil => exact .nil
  | append_singleton w c ih => simpa using ih.insert c

theorem deleteAll (u : Text) : Layout swaps u.length u [] := by
  induction u using List.reverseRecOn with
  | nil => exact .nil
  | append_singleton u c ih => simpa using ih.delete c

/-- A text beside itself costs nothing. -/
theorem refl (a : Text) : Layout swaps 0 a a := by
  induction a using List.reverseRecOn with
  | nil => exact .nil
  | append_singleton a c ih => exact ih.keep c

/-- Any two characters stand side by side, at no cost if they are the same. -/
theorem pair (h : Layout swaps n a b) (x y : Char) :
    Layout swaps (n + if x = y then 0 else 1) (a ++ [x]) (b ++ [y]) := by
  split
  · rename_i hxy
    rw [hxy]
    exact h.keep y
  · exact h.substitute x y

/-- A layout read from right to left is a layout of the texts read from right to left. -/
theorem reverse (h : Layout swaps n a b) : Layout swaps n a.reverse b.reverse := by
  induction h with
  | nil => exact .nil
  | insert y _ ih => simpa [Nat.add_comm] using (nil.insert y).append ih
  | delete x _ ih => simpa [Nat.add_comm] using (nil.delete x).append ih
  | keep x _ ih => simpa using (nil.keep x).append ih
  | substitute x y _ ih => simpa [Nat.add_comm] using (nil.substitute x y).append ih
  | exchange x y u w hswaps _ ih =>
    simpa [Nat.add_comm] using (nil.exchange y x u.reverse w.reverse hswaps).append ih

/-- The lengths of two texts differ by no more than a layout costs. -/
theorem length_le (h : Layout swaps n a b) : a.length ≤ b.length + n ∧ b.length ≤ a.length + n := by
  induction h with
  | nil => simp
  | insert | delete | keep | substitute | exchange =>
    simp only [List.length_append, List.length_cons, List.length_nil]
    omega

/-! ## Layouts as edits -/

/-- The characters between the two of a swap are deleted before and inserted after it. -/
theorem edits_exchange (x y : Char) (u w : Text) (hswaps : swaps = true) :
    Edits swaps (u.length + w.length + 1) (x :: (u ++ [y])) (y :: (w ++ [x])) := by
  have hdelete : Edits swaps u.length (x :: (u ++ [y])) [x, y] := by
    simpa using (Edits.deleteAll u).between [x] [y]
  have hswap : Edits swaps 1 [x, y] [y, x] := .single (.swap [] [] x y hswaps)
  have hinsert : Edits swaps w.length [y, x] (y :: (w ++ [x])) := by
    simpa using (Edits.insertAll w).between [y] [x]
  rw [Nat.add_assoc, Nat.add_comm w.length, ← Nat.add_assoc]
  exact (hdelete.trans hswap).trans hinsert

/-- The first text of a layout turns into the second by as many edits as the layout costs. -/
theorem edits (h : Layout swaps n a b) : Edits swaps n a b := by
  induction h with
  | nil => exact .nil []
  | insert y _ ih => simpa using ih.append (.single (.insert [] [] y))
  | delete x _ ih => simpa using ih.append (.single (.delete [] [] x))
  | keep x _ ih => exact ih.append (.nil [x])
  | substitute x y _ ih => exact ih.append (.single (.substitute [] [] x y))
  | exchange x y u w hswaps _ ih => exact ih.append (edits_exchange x y u w hswaps)

/-! ## Taking layouts apart -/

/-- Without the character that comes last then, a block of a swap is no dearer: the other one is kept. -/
theorem keep_first_of_exchange (x y : Char) (u w : Text) :
    Layout swaps (u.length + w.length + 1) (x :: (u ++ [y])) (y :: w) := by
  have h : Layout swaps _ (x :: u ++ [y] ++ []) ([] ++ [y] ++ w) :=
    ((deleteAll (x :: u)).append (refl [y])).append (insertAll w)
  have hcost : u.length + w.length + 1 = (x :: u).length + 0 + w.length := by
    rw [List.length_cons]
    omega
  rw [hcost]
  simpa using h

/-- Without the last character of the second text a layout is no dearer, unless that character is kept. -/
theorem cases_last {p : Char} {s : Text} (h : Layout swaps n a (s ++ [p])) :
    (∃ m ≤ n, Layout swaps m a s) ∨
      ∃ a' e m, a = a' ++ p :: e ∧ Layout swaps m a' s ∧ n = m + e.length := by
  generalize hb : s ++ [p] = b at h
  induction h with
  | nil => simp at hb
  | @insert n a b y h =>
    obtain ⟨rfl, -⟩ := List.append_inj' hb rfl
    exact .inl ⟨n, Nat.le_succ n, h⟩
  | @delete n a b x h ih =>
    rcases ih hb with ⟨m, hm, h'⟩ | ⟨a', e, m, rfl, h', rfl⟩
    · exact .inl ⟨m + 1, Nat.succ_le_succ hm, h'.delete x⟩
    · exact .inr ⟨a', e ++ [x], m, by simp, h', by simp [Nat.add_assoc]⟩
  | @keep n a b x h =>
    obtain ⟨rfl, hx⟩ := List.append_inj' hb rfl
    obtain rfl : p = x := by simpa using hx
    exact .inr ⟨a, [], n, rfl, h, rfl⟩
  | @substitute n a b x y h =>
    obtain ⟨rfl, -⟩ := List.append_inj' hb rfl
    exact .inl ⟨n + 1, Nat.le_refl _, h.delete x⟩
  -- The last character was swapped with the other one, which is kept without it.
  | @exchange n a b x y u w hswaps h =>
    have hs : s = b ++ y :: w := by
      rw [← List.cons_append, ← List.append_assoc] at hb
      exact (List.append_inj' hb rfl).1
    subst hs
    exact .inl ⟨n + (u.length + w.length + 1), Nat.le_refl _, h.append (keep_first_of_exchange x y u w)⟩

/-- Without the first character of the second text a layout is no dearer, unless that character is kept. -/
theorem cases_head {q : Char} {t : Text} (h : Layout swaps n a (q :: t)) :
    (∃ m ≤ n, Layout swaps m a t) ∨
      ∃ e a' m, a = e ++ q :: a' ∧ Layout swaps m a' t ∧ n = m + e.length := by
  have hreverse := h.reverse
  rw [List.reverse_cons] at hreverse
  rcases hreverse.cases_last with ⟨m, hm, h'⟩ | ⟨a', e, m, ha, h', hn⟩
  · exact .inl ⟨m, hm, by simpa using h'.reverse⟩
  · refine .inr ⟨e.reverse, a'.reverse, m, ?_, by simpa using h'.reverse, by simpa using hn⟩
    rw [← List.reverse_reverse a, ha]
    simp

/-- Where the second text of a layout is cut in two, the layout falls in two as well, or the cut goes through the block
of a swap. -/
inductive Cut (swaps : Bool) : Nat → Text → Text → Text → Prop
  | apart {m n : Nat} {a₁ a₂ s t : Text} (h₁ : Layout swaps m a₁ s) (h₂ : Layout swaps n a₂ t) :
      Cut swaps (m + n) (a₁ ++ a₂) s t
  | across {m n : Nat} {a₁ a₂ s t : Text} (x y : Char) (u w₁ w₂ : Text) (hswaps : swaps = true)
      (h₁ : Layout swaps m a₁ s) (h₂ : Layout swaps n a₂ t) :
      Cut swaps (m + (u.length + (w₁ ++ w₂).length + 1) + n) (a₁ ++ x :: (u ++ [y]) ++ a₂) (s ++ y :: w₁)
        (w₂ ++ x :: t)

/-- A layout that goes on behind the cut. -/
theorem Cut.append {s t : Text} (h : Cut swaps m a s t) (h' : Layout swaps n a' b') :
    Cut swaps (m + n) (a ++ a') s (t ++ b') := by
  cases h with
  | apart h₁ h₂ =>
    rw [Nat.add_assoc, List.append_assoc]
    exact .apart h₁ (h₂.append h')
  | across x y u w₁ w₂ hswaps h₁ h₂ =>
    rw [Nat.add_assoc, List.append_assoc (_ ++ _), List.append_assoc w₂, List.cons_append]
    exact .across x y u w₁ w₂ hswaps h₁ (h₂.append h')

/-- A cut behind the second text. -/
theorem Cut.atEnd {s : Text} (h : Layout swaps n a s) : Cut swaps n a s [] := by
  simpa using Cut.apart h .nil

/-- If the cut is not behind a last block of one character, then it is somewhere before that block. -/
theorem Cut.last {s t : Text} {y : Char} (hb : s ++ t = b ++ [y]) (hbefore : ∀ t, s ++ t = b → Cut swaps m a s t)
    (hblock : Layout swaps n a' [y]) (hall : Layout swaps (m + n) (a ++ a') (b ++ [y])) :
    Cut swaps (m + n) (a ++ a') s t := by
  rcases t.eq_nil_or_concat with rfl | ⟨t', z, rfl⟩
  · rw [List.append_nil] at hb
    subst hb
    exact .atEnd hall
  · rw [List.concat_eq_append, ← List.append_assoc] at hb
    obtain ⟨hst, hz⟩ := List.append_inj' hb rfl
    rw [List.concat_eq_append, hz]
    exact (hbefore t' hst).append hblock

theorem cut {s t : Text} (h : Layout swaps n a (s ++ t)) : Cut swaps n a s t := by
  generalize hb : s ++ t = b at h
  induction h generalizing t with
  | nil =>
    obtain ⟨rfl, rfl⟩ := List.append_eq_nil_iff.1 hb
    exact .atEnd nil
  | insert y h ih => simpa using Cut.last hb (fun t => ih) (nil.insert y) (by simpa using h.insert y)
  | delete x h ih => simpa using (ih hb).append (nil.delete x)
  | keep x h ih => exact Cut.last hb (fun t => ih) (nil.keep x) (h.keep x)
  | substitute x y h ih => exact Cut.last hb (fun t => ih) (nil.substitute x y) (h.substitute x y)
  | @exchange n a b x y u w hswaps h ih =>
    have hblock : Layout swaps (u.length + w.length + 1) (x :: (u ++ [y])) (y :: (w ++ [x])) := by
      simpa using nil.exchange x y u w hswaps
    rcases List.append_eq_append_iff.1 hb with ⟨c, rfl, rfl⟩ | ⟨c, rfl, hc⟩
    · exact (ih rfl).append hblock
    -- The cut is not before the block: it is in front of it, behind it, or between its first and its last character.
    cases c with
    | nil =>
      have hbefore : Cut swaps n a b [] := .atEnd h
      rw [List.nil_append] at hc
      rw [← hc, List.append_nil]
      exact hbefore.append hblock
    | cons z c =>
      rw [List.cons_append, List.cons.injEq] at hc
      obtain ⟨rfl, hw⟩ := hc
      rcases t.eq_nil_or_concat with rfl | ⟨t, z, rfl⟩
      · rw [List.append_nil] at hw
        rw [← hw]
        exact .atEnd (h.exchange x y u w hswaps)
      · rw [List.concat_eq_append, ← List.append_assoc] at hw
        obtain ⟨rfl, hz⟩ := List.append_inj' hw rfl
        rw [List.concat_eq_append, ← hz]
        simpa using Cut.across x y u c t hswaps h nil

/-! ## Edits of one side -/

theorem insert_middle {s t : Text} (c : Char) (h : Layout swaps n a (s ++ t)) :
    Layout swaps (n + 1) a (s ++ c :: t) := by
  cases h.cut with
  | @apart m n a₁ a₂ s t h₁ h₂ =>
    rw [Nat.add_right_comm]
    simpa using (h₁.insert c).append h₂
  | @across m n a₁ a₂ s t x y u w₁ w₂ hswaps h₁ h₂ =>
    have hblock := (h₁.exchange x y u (w₁ ++ c :: w₂) hswaps).append h₂
    have hcost : m + (u.length + (w₁ ++ w₂).length + 1) + n + 1 =
        m + (u.length + (w₁ ++ c :: w₂).length + 1) + n := by
      simp only [List.length_append, List.length_cons]
      omega
    rw [hcost]
    simpa using hblock

/-- A character of the second text becomes a text that is no longer and costs no more than an edit of it. -/
theorem change_middle {s t w : Text} {z : Char} (h : Layout swaps n a (s ++ z :: t)) (hw : w.length ≤ 1)
    (hchange : Layout swaps 1 [z] w) : ∃ m ≤ n + 1, Layout swaps m a (s ++ (w ++ t)) := by
  generalize ht : z :: t = zt at h
  cases h.cut with
  | @apart m n a₁ a₂ s t' h₁ h₂ =>
    subst ht
    rcases h₂.cases_head with ⟨m', hm', h'⟩ | ⟨e, a', m', rfl, h', rfl⟩
    · exact ⟨m + w.length + m', by omega, by simpa using (h₁.append (insertAll w)).append h'⟩
    -- The character was kept, so it is changed where it stands, behind what is deleted in front of it.
    · refine ⟨m + (e.length + 1 + m'), by omega, ?_⟩
      simpa using h₁.append (((deleteAll e).append hchange).append h')
  | @across m n a₁ a₂ s t' x y u w₁ w₂ hswaps h₁ h₂ =>
    cases w₂ with
    | nil =>
      -- The character was one of the two that are swapped. Now the other one is kept.
      obtain ⟨rfl, rfl⟩ := List.cons.inj ht
      refine ⟨m + (u.length + (w₁ ++ w).length + 1) + n, ?_, ?_⟩
      · simp only [List.length_append, List.length_nil]
        omega
      · simpa using (h₁.append (keep_first_of_exchange z y u (w₁ ++ w))).append h₂
    | cons z' w₂ =>
      rw [List.cons_append, List.cons.injEq] at ht
      obtain ⟨rfl, rfl⟩ := ht
      refine ⟨m + (u.length + (w₁ ++ (w ++ w₂)).length + 1) + n, ?_, ?_⟩
      · simp only [List.length_append, List.length_cons]
        omega
      · simpa using (h₁.exchange x y u (w₁ ++ (w ++ w₂)) hswaps).append h₂

theorem delete_middle {s t : Text} {z : Char} (h : Layout swaps n a (s ++ z :: t)) :
    ∃ m ≤ n + 1, Layout swaps m a (s ++ t) :=
  h.change_middle (w := []) (Nat.zero_le 1) (deleteAll [z])

theorem substitute_middle {s t : Text} {z : Char} (d : Char) (h : Layout swaps n a (s ++ z :: t)) :
    ∃ m ≤ n + 1, Layout swaps m a (s ++ d :: t) :=
  h.change_middle (w := [d]) (Nat.le_refl 1) (nil.substitute z d)

/-- Neighbours are swapped that stand on the two sides of a cut between blocks. -/
theorem swap_apart {a₁ a₂ s t : Text} {p q : Char} (hswaps : swaps = true) (h₁ : Layout swaps m a₁ (s ++ [p]))
    (h₂ : Layout swaps n a₂ (q :: t)) : ∃ k ≤ m + n + 1, Layout swaps k (a₁ ++ a₂) (s ++ q :: p :: t) := by
  rcases h₁.cases_last with ⟨m', hm', h'⟩ | ⟨a', e, m', rfl, h', rfl⟩
  · have hq : Layout swaps (n + 1) a₂ ([q] ++ p :: t) := insert_middle p h₂
    exact ⟨m' + (n + 1), by omega, h'.append hq⟩
  rcases h₂.cases_head with ⟨n', hn', h''⟩ | ⟨e', a'', n', rfl, h'', rfl⟩
  · have hp : Layout swaps (m' + e.length + 1) (a' ++ p :: e) (s ++ [q, p]) := insert_middle q h₁
    exact ⟨m' + e.length + 1 + n', by omega, by simpa using hp.append h''⟩
  -- Both are kept, so they become a block of a swap with what is deleted between them.
  · refine ⟨m' + ((e ++ e').length + 0 + 1) + n', ?_, ?_⟩
    · rw [List.length_append]
      omega
    · simpa using (h'.exchange p q (e ++ e') [] hswaps).append h''

/-- Neighbours are swapped in a block of a swap. -/
theorem swap_exchange (x y : Char) (u w₁ w₂ : Text) {p q : Char} (hswaps : swaps = true) {s t : Text}
    (hs : s ++ [p] = y :: w₁) (ht : q :: t = w₂ ++ [x]) :
    ∃ k ≤ u.length + (w₁ ++ w₂).length + 2, Layout swaps k (x :: (u ++ [y])) (s ++ q :: p :: t) := by
  cases s with
  | nil =>
    obtain ⟨rfl, rfl⟩ := List.cons.inj hs
    cases w₂ with
    | nil =>
      obtain ⟨rfl, rfl⟩ := List.cons.inj ht
      have h : Layout swaps u.length ([q] ++ u ++ [p]) ([q] ++ [] ++ [p]) := by
        simpa using ((refl [q]).append (deleteAll u)).append (refl [p])
      exact ⟨u.length, by omega, by simpa using h⟩
    | cons z w₂ =>
      rw [List.cons_append, List.cons.injEq] at ht
      obtain ⟨rfl, rfl⟩ := ht
      have h := (nil.insert q).exchange x p u w₂ hswaps
      refine ⟨0 + 1 + (u.length + w₂.length + 1), ?_, by simpa using h⟩
      simp only [List.nil_append, List.length_cons]
      omega
  | cons z s =>
    rw [List.cons_append, List.cons.injEq] at hs
    obtain ⟨rfl, rfl⟩ := hs
    cases w₂ with
    | nil =>
      obtain ⟨rfl, rfl⟩ := List.cons.inj ht
      have h := (nil.exchange q z u s hswaps).insert p
      refine ⟨0 + (u.length + s.length + 1) + 1, ?_, by simpa using h⟩
      simp only [List.append_nil, List.length_append, List.length_singleton]
      omega
    | cons z' w₂ =>
      rw [List.cons_append, List.cons.injEq] at ht
      obtain ⟨rfl, rfl⟩ := ht
      have h := nil.exchange x z u (s ++ q :: p :: w₂) hswaps
      refine ⟨0 + (u.length + (s ++ q :: p :: w₂).length + 1), ?_, by simpa using h⟩
      simp only [List.length_append, List.length_cons, List.length_nil]
      omega

theorem swap_middle {s t : Text} {p q : Char} (hswaps : swaps = true) (h : Layout swaps n a (s ++ p :: q :: t)) :
    ∃ m ≤ n + 1, Layout swaps m a (s ++ q :: p :: t) := by
  have hb : s ++ p :: q :: t = s ++ [p] ++ q :: t := by simp
  rw [hb] at h
  generalize hs : s ++ [p] = sp at h
  generalize ht : q :: t = qt at h
  cases h.cut with
  | apart h₁ h₂ =>
    subst hs ht
    exact swap_apart hswaps h₁ h₂
  | @across m n a₁ a₂ s' t' x y u w₁ w₂ _ h₁ h₂ =>
    -- Both characters are in the block, the last one before the cut and the first one behind it.
    obtain ⟨before, p', hp⟩ := (y :: w₁).eq_nil_or_concat.resolve_left (List.cons_ne_nil y w₁)
    obtain ⟨q', after, hq⟩ := List.exists_cons_of_ne_nil (List.concat_ne_nil x w₂)
    rw [List.concat_eq_append] at hp
    rw [hp, ← List.append_assoc] at hs
    obtain ⟨rfl, hpp⟩ := List.append_inj' hs rfl
    obtain rfl : p = p' := by simpa using hpp
    rw [List.append_cons, hq, List.cons_append, List.cons.injEq] at ht
    obtain ⟨rfl, rfl⟩ := ht
    obtain ⟨k, hk, hblock⟩ := swap_exchange x y u w₁ w₂ hswaps hp.symm hq.symm
    exact ⟨m + k + n, by omega, by simpa using (h₁.append hblock).append h₂⟩

/-- An edit of the second text makes a layout dearer by one at most. -/
theorem edit {c : Text} (h : Layout swaps n a b) (hedit : Edit swaps b c) : ∃ m ≤ n + 1, Layout swaps m a c := by
  cases hedit with
  | insert s t c => exact ⟨n + 1, Nat.le_refl _, h.insert_middle c⟩
  | delete s t c => exact h.delete_middle
  | substitute s t c d => exact h.substitute_middle d
  | swap s t c d hswaps => exact h.swap_middle hswaps

/-- Two texts have a layout that costs no more than edits by which the first turns into the second. -/
theorem exists_of_edits (h : Edits swaps n a b) : ∃ m ≤ n, Layout swaps m a b := by
  -- By induction on the edits, which start from any layout with the second text they start from.
  have hfrom : ∀ {n : Nat} {b c : Text}, Edits swaps n b c → ∀ k, Layout swaps k a b →
      ∃ m ≤ k + n, Layout swaps m a c := by
    intro n b c h
    induction h with
    | nil => exact fun k hk => ⟨k, Nat.le_refl k, hk⟩
    | cons first _ ih =>
      intro k hk
      obtain ⟨m, hm, hfirst⟩ := hk.edit first
      obtain ⟨m', hm', hlater⟩ := ih m hfirst
      exact ⟨m', by omega, hlater⟩
  obtain ⟨m, hm, hlayout⟩ := hfrom h 0 (refl a)
  exact ⟨m, by omega, hlayout⟩

end Layout

/-- A distance counts edits if it is the cost of a layout and no layout costs less. -/
theorem CountsEdits.of_layouts {swaps : Bool} {distance : Text → Text → Nat}
    (hlayout : ∀ a b, Layout swaps (distance a b) a b)
    (hleast : ∀ a b n, Layout swaps n a b → distance a b ≤ n) : CountsEdits swaps distance := by
  refine fun a b => ⟨(hlayout a b).edits, fun n hedits => ?_⟩
  obtain ⟨m, hm, h⟩ := Layout.exists_of_edits hedits
  exact Nat.le_trans (hleast a b m h) hm

end TextAnalysis
