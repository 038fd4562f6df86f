/-
# Matches in any case

The lower case of a text is put together from the lower cases of its characters, except that a capital sigma becomes a
final one at the end of a word. So the lower case of a key is part of the lower case of a candidate that has the key, if
the same sigmas are final in both. A key whose word goes on in the candidate, or starts in front of it, can get lost.
-/
import TextAnalysis.Pattern.Engine
import TextAnalysis.Proofs.Outcomes
import TextAnalysis.Proofs.Parts

namespace TextAnalysis

namespace Text

variable {front key back : Text}

/-! ## Lower case within a text -/

/-- Whether a sigma is final, by the characters before it, the nearest first, and those after it. -/
def isFinalBetween (before after : Text) : Bool :=
  meetsCased before && !meetsCased after

/-- The lower case of a part of a text. -/
def lowercaseBetween (before after : Text) : Text → Text
  | [] => []
  | c :: rest =>
    (if c = 'Σ' then [if isFinalBetween before (rest ++ after) then 'ς' else 'σ'] else lowerChar c)
      ++ lowercaseBetween (c :: before) after rest

theorem lowercaseFrom_append (before text after : Text) : lowercaseFrom before (text ++ after) =
    lowercaseBetween before after text ++ lowercaseFrom (text.reverse ++ before) after := by
  induction text generalizing before with
  | nil => rfl
  | cons c rest ih =>
    rw [List.cons_append, lowercaseFrom, lowercaseBetween, ih, List.append_assoc, List.reverse_cons, List.append_assoc,
      List.singleton_append]
    rfl

theorem lowercase_eq (text : Text) : text.lowercase = lowercaseBetween [] [] text := by
  have happend := lowercaseFrom_append [] text []
  rw [List.append_nil] at happend
  exact happend.trans (List.append_nil _)

/-- The lower case of a text in three parts. -/
theorem lowercase_append_append (front key back : Text) : (front ++ key ++ back).lowercase =
    lowercaseBetween [] (key ++ back) front ++ lowercaseBetween front.reverse back key ++
      lowercaseFrom (key.reverse ++ front.reverse) back := by
  unfold lowercase
  rw [List.append_assoc, lowercaseFrom_append, lowercaseFrom_append, List.append_assoc, List.append_nil]

/-- The length of the lower case does not depend on the text around. -/
theorem length_lowercaseBetween (before after before' after' text : Text) :
    (lowercaseBetween before after text).length = (lowercaseBetween before' after' text).length := by
  induction text generalizing before before' with
  | nil => rfl
  | cons c rest ih =>
    rw [lowercaseBetween, lowercaseBetween, List.length_append, List.length_append, ih (c :: before) (c :: before')]
    split
    · rfl
    · rfl

/-- Two texts around a part make no difference exactly if the same sigmas are final. -/
theorem lowercaseBetween_eq_iff {before after before' after' text : Text} :
    lowercaseBetween before after text = lowercaseBetween before' after' text ↔
      ∀ u v, text = u ++ 'Σ' :: v →
        isFinalBetween (u.reverse ++ before) (v ++ after) = isFinalBetween (u.reverse ++ before') (v ++ after') := by
  induction text generalizing before before' with
  | nil => simp [lowercaseBetween]
  | cons c rest ih =>
    rw [lowercaseBetween, lowercaseBetween]
    -- The sigmas of the text are its first character, if that is one, and the sigmas of the rest, which has one
    -- character more in front of it.
    have hrest : (∀ u v, c :: rest = u ++ 'Σ' :: v → isFinalBetween (u.reverse ++ before) (v ++ after) =
          isFinalBetween (u.reverse ++ before') (v ++ after')) ↔
        (c = 'Σ' → isFinalBetween before (rest ++ after) = isFinalBetween before' (rest ++ after')) ∧
          lowercaseBetween (c :: before) after rest = lowercaseBetween (c :: before') after' rest := by
      rw [ih]
      constructor
      · intro h
        refine ⟨?_, fun u v hsplit => ?_⟩
        · rintro rfl
          exact h [] rest rfl
        · have hlater := h (c :: u) v (congrArg (c :: ·) hsplit)
          rwa [List.reverse_cons, List.append_assoc, List.append_assoc] at hlater
      · rintro ⟨hfirst, hlater⟩ u v hsplit
        cases u with
        | nil =>
          cases hsplit
          exact hfirst rfl
        | cons d u =>
          cases hsplit
          rw [List.reverse_cons, List.append_assoc, List.append_assoc]
          exact hlater u v rfl
    rw [hrest]
    by_cases hc : c = 'Σ'
    · rw [if_pos hc, if_pos hc, List.singleton_append, List.singleton_append, List.cons.injEq]
      refine and_congr_left fun _ => ?_
      generalize isFinalBetween before (rest ++ after) = b
      generalize isFinalBetween before' (rest ++ after') = b'
      cases b <;> cases b' <;> simp [hc]
    · rw [if_neg hc, if_neg hc, List.append_cancel_left_eq]
      simp [hc]

/-! ## Sigmas -/

/-- The same sigmas of a key are final in the key itself and with texts around it. -/
def KeepsSigmas (front key back : Text) : Prop :=
  ∀ u v, key = u ++ 'Σ' :: v →
    isFinalBetween (u.reverse ++ front.reverse) (v ++ back) = isFinalBetween u.reverse v

theorem lowercaseBetween_eq_lowercase_iff :
    lowercaseBetween front.reverse back key = key.lowercase ↔ KeepsSigmas front key back := by
  rw [lowercase_eq, lowercaseBetween_eq_iff]
  simp [KeepsSigmas]

theorem meetsCased_append (text after : Text) :
    meetsCased (text ++ after) = if text.all isCaseIgnorable then meetsCased after else meetsCased text := by
  induction text with
  | nil => rfl
  | cons c rest ih =>
    by_cases hc : isCaseIgnorable c = true
    · have hcons : ∀ t, meetsCased (c :: t) = meetsCased t := by
        intro t
        unfold meetsCased
        rw [List.dropWhile_cons_of_pos hc]
      rw [List.cons_append, hcons, hcons, ih, List.all_cons, hc, Bool.true_and]
    · have hcons : ∀ t, meetsCased (c :: t) = isCased c := by
        intro t
        unfold meetsCased
        rw [List.dropWhile_cons_of_neg hc]
        rfl
      simp [hcons, hc]

theorem meetsCased_of_all {text : Text} (h : text.all isCaseIgnorable = true) : meetsCased text = false := by
  have happend := meetsCased_append text []
  rw [List.append_nil, if_pos h] at happend
  exact happend

/-- Around a key, another sigma is final than in the key itself if the word of the last sigma goes on behind the key, or
if the word of the first one starts in front of it. -/
theorem keepsSigmas_iff : KeepsSigmas front key back ↔ ¬ ∃ u v, key = u ++ 'Σ' :: v ∧
    (meetsCased u.reverse ∧ v.all isCaseIgnorable ∧ meetsCased back ∨
      u.all isCaseIgnorable ∧ meetsCased front.reverse ∧ ¬ meetsCased (v ++ back)) := by
  have hone : ∀ u v : Text, isFinalBetween (u.reverse ++ front.reverse) (v ++ back) = isFinalBetween u.reverse v ↔
      ¬ (meetsCased u.reverse ∧ v.all isCaseIgnorable ∧ meetsCased back ∨
        u.all isCaseIgnorable ∧ meetsCased front.reverse ∧ ¬ meetsCased (v ++ back)) := by
    intro u v
    unfold isFinalBetween
    rw [meetsCased_append u.reverse, List.all_reverse]
    -- If only characters that are ignored stand in front of the sigma in the key, then the text in front of the key
    -- decides, and behind it likewise.
    by_cases hu : u.all isCaseIgnorable = true
    · have hbefore : meetsCased u.reverse = false := meetsCased_of_all (by rwa [List.all_reverse])
      simp [hu, hbefore]
    · rw [meetsCased_append v]
      by_cases hv : v.all isCaseIgnorable = true
      · have hafter : meetsCased v = false := meetsCased_of_all hv
        simp [hu, hv, hafter]
      · simp [hu, hv]
  simp only [KeepsSigmas, hone, not_exists, not_and]

end Text

namespace Comparison

open Text

variable {c : Comparison} {front key back : Text}

/-- What is allowed around a key is allowed in lower case. -/
theorem holds_lowercase (h : c.Allows front back) (hkeeps : KeepsSigmas front key back) :
    c.holds (front ++ key ++ back).lowercase key.lowercase = true := by
  rw [lowercase_append_append, lowercaseBetween_eq_lowercase_iff.2 hkeeps]
  refine holds_iff.2 ⟨_, _, ?_, rfl⟩
  cases c with
  | equals =>
    obtain ⟨rfl, rfl⟩ := h
    exact ⟨rfl, rfl⟩
  | startsWith =>
    obtain rfl : front = [] := h
    rfl
  | endsWith =>
    obtain rfl : back = [] := h
    rfl
  | contains => trivial

/-- Where the place of the key is known, the lower case has the key only if the sigmas stay the same. -/
theorem keepsSigmas_of_holds_lowercase (h : c.Allows front back) (hc : c ≠ contains)
    (hholds : c.holds (front ++ key ++ back).lowercase key.lowercase = true) : KeepsSigmas front key back := by
  rw [lowercase_append_append] at hholds
  obtain ⟨first, last, hallows, heq⟩ := holds_iff.1 hholds
  have hlength : key.lowercase.length = (lowercaseBetween front.reverse back key).length := by
    rw [lowercase_eq]
    exact length_lowercaseBetween ..
  refine lowercaseBetween_eq_lowercase_iff.1 ?_
  -- Lower case keeps the length of the key, so where its place is known the two lower cases stand at the same place.
  cases c with
  | equals =>
    obtain ⟨rfl, rfl⟩ := h
    obtain ⟨rfl, rfl⟩ := hallows
    exact (List.append_inj_left heq hlength).symm
  | startsWith =>
    obtain rfl : front = [] := h
    obtain rfl : first = [] := hallows
    exact (List.append_inj_left heq hlength).symm
  | endsWith =>
    obtain rfl : back = [] := h
    obtain rfl : last = [] := hallows
    rw [List.append_nil, lowercaseFrom, List.append_nil] at heq
    exact (List.append_inj_right' heq hlength).symm
  | contains => exact absurd rfl hc

end Comparison

namespace Matcher

open Text

theorem isMatch_textual_iff [PatternEngine] {c : Comparison} {ignoreCase : Bool} {candidate key : Text} :
    (textual c ignoreCase).isMatch candidate key = .ok true ↔
      (if ignoreCase then c.holds candidate.lowercase key.lowercase else c.holds candidate key) = true := by
  unfold isMatch score plainScore
  cases ignoreCase with
  | false => simp [Except.map]
  | true => simp [Except.map]

/-! ## Matching -/

/-- **Matches in any case.** A candidate that matches a key is this key with texts around it that the comparison allows.
If with these texts the same sigmas are final as in the key itself, then they match when case is ignored; with a
comparison that says where the key stands, they do not match otherwise. Sigmas are not the same if the word of the last
one in the key goes on behind the key, or the word of the first one starts in front of it. So equal texts and keys
without a sigma are never lost. -/
theorem isMatch_ignoringCase [PatternEngine] (c : Comparison) (candidate key : Text)
    (h : (textual c false).isMatch candidate key = .ok true) :
    (∃ front back, c.Allows front back ∧ front ++ key ++ back = candidate) ∧
    (∀ front back, c.Allows front back → front ++ key ++ back = candidate →
      (KeepsSigmas front key back → (textual c true).isMatch candidate key = .ok true) ∧
      (c ≠ .contains → (textual c true).isMatch candidate key = .ok true → KeepsSigmas front key back) ∧
      (KeepsSigmas front key back ↔ ¬ ∃ u v, key = u ++ 'Σ' :: v ∧
        (meetsCased u.reverse ∧ v.all isCaseIgnorable ∧ meetsCased back ∨
          u.all isCaseIgnorable ∧ meetsCased front.reverse ∧ ¬ meetsCased (v ++ back)))) ∧
    (c = .equals ∨ 'Σ' ∉ key → (textual c true).isMatch candidate key = .ok true) := by
  have hparts := Comparison.holds_iff.1 (isMatch_textual_iff.1 h)
  have hkeeps : ∀ front back, c.Allows front back → front ++ key ++ back = candidate →
      KeepsSigmas front key back → (textual c true).isMatch candidate key = .ok true := by
    rintro front back hallows rfl hkeeps
    exact isMatch_textual_iff.2 (Comparison.holds_lowercase hallows hkeeps)
  refine ⟨hparts, fun front back hallows hcandidate => ⟨hkeeps front back hallows hcandidate, ?_, keepsSigmas_iff⟩, ?_⟩
  · subst hcandidate
    exact fun hc hmatch => Comparison.keepsSigmas_of_holds_lowercase hallows hc (isMatch_textual_iff.1 hmatch)
  · intro hsafe
    obtain ⟨front, back, hallows, hcandidate⟩ := hparts
    refine hkeeps front back hallows hcandidate fun u v hsplit => ?_
    -- With equal texts there is nothing around the key, and without a sigma nothing to keep.
    rcases hsafe with rfl | hsigma
    · obtain ⟨rfl, rfl⟩ := hallows
      rw [List.reverse_nil, List.append_nil, List.append_nil]
    · exact absurd (hsplit ▸ List.mem_append_right u (List.mem_cons_self ..)) hsigma

/-- The word of the key ends where the key ends, and a key without a sigma. -/
theorem isMatch_ignoringCase_wholeWord :
    (textual .startsWith true).isMatch "ΟΔΟΣ Α".toList "ΟΔΟΣ".toList = .ok true ∧
    KeepsSigmas [] "ΟΔΟΣ".toList " Α".toList ∧
    (textual .contains true).isMatch "xFoox".toList "Foo".toList = .ok true := by
  have hlower : (textual .startsWith true).isMatch "ΟΔΟΣ Α".toList "ΟΔΟΣ".toList = .ok true := by decide +kernel
  obtain ⟨-, hword, -⟩ := isMatch_ignoringCase .startsWith "ΟΔΟΣ Α".toList "ΟΔΟΣ".toList (by decide)
  obtain ⟨hkeeps, hkept, -⟩ := hword [] " Α".toList rfl rfl
  have hsigmas := hkept (by decide) hlower
  obtain ⟨-, -, hplain⟩ := isMatch_ignoringCase .contains "xFoox".toList "Foo".toList (by decide)
  exact ⟨hkeeps hsigmas, hsigmas, hplain (.inr (by decide))⟩

/-- Keys that a candidate has, and that are lost when case is ignored: in front of another letter and behind others. -/
theorem isMatch_ignoringCase_finalSigma :
    ((textual .startsWith false).isMatch "ΟΔΟΣΑ".toList "ΟΔΟΣ".toList = .ok true ∧
      (textual .startsWith true).isMatch "ΟΔΟΣΑ".toList "ΟΔΟΣ".toList = .ok false) ∧
    ((textual .endsWith false).isMatch "ΟΔΟΣ".toList "Σ".toList = .ok true ∧
      (textual .endsWith true).isMatch "ΟΔΟΣ".toList "Σ".toList = .ok false) ∧
    (textual .contains false).isMatch "ΟΔΟΣΑ".toList "ΟΔΟΣ".toList = .ok true ∧
      (textual .contains true).isMatch "ΟΔΟΣΑ".toList "ΟΔΟΣ".toList = .ok false := by
  decide +kernel

end Matcher

end TextAnalysis
