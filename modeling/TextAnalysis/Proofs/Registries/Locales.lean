/-
# Listed locales

A registry lists the code of every registered vocabulary that no later one with the same code has replaced. Codes are
compared up to the case of ASCII letters there, and names are looked up in any case, so that codes of ASCII letters are
listed once for all their cases, but other codes for every case in which they were registered. What a listed code leads
to is the vocabulary with this code, unless a later one has the code among its aliases.
-/
import TextAnalysis.CommandLine.Run
import TextAnalysis.Proofs.Registries.Runs

namespace TextAnalysis

/-! ## ASCII letters -/

namespace Text

/-- Whether a text consists of ASCII characters. -/
def IsAscii (text : Text) : Prop :=
  ∀ c ∈ text, c.toNat < 128

theorem lowerChar_of_ascii {c : Char} (h : c.toNat < 128) : lowerChar c = [c.toLower] := by
  have hall : ∀ n < 128, lowerChar (Char.ofNat n) = [(Char.ofNat n).toLower] := by decide +kernel
  have hc := hall c.toNat h
  rwa [Char.ofNat_toNat] at hc

/-- The lower case of a text of ASCII characters is that of its ASCII letters. -/
theorem lowercase_of_isAscii {text : Text} (h : IsAscii text) : text.lowercase = text.asciiLowercase := by
  have hfrom : ∀ before, lowercaseFrom before text = text.map Char.toLower := by
    induction text with
    | nil => exact fun _ => rfl
    | cons c rest ih =>
      intro before
      obtain ⟨hc, hrest⟩ := List.forall_mem_cons.1 h
      -- Of all characters only the capital sigma needs a look at the text around it.
      have hsigma : c ≠ 'Σ' := by
        rintro rfl
        exact absurd hc (by decide)
      rw [lowercaseFrom, if_neg hsigma, lowerChar_of_ascii hc, ih hrest]
      rfl
  exact hfrom []

theorem eqIgnoringAsciiCase_iff {a b : Text} : a.eqIgnoringAsciiCase b = true ↔ a.asciiLowercase = b.asciiLowercase :=
  beq_iff_eq

/-- A character is its ASCII lower case, unless it is a capital letter. -/
theorem toLower_cases (c : Char) : c.toLower = c ∨ ∃ n < 26, c = Char.ofNat (65 + n) := by
  by_cases h : 65 ≤ c.toNat ∧ c.toNat ≤ 90
  · refine .inr ⟨c.toNat - 65, by omega, ?_⟩
    rw [Nat.add_sub_cancel' h.1, Char.ofNat_toNat]
  · exact .inl (dif_neg h)

/-- ASCII letters have the same properties in both cases. -/
theorem toLower_alike (c : Char) : lowerChar c.toLower = lowerChar c ∧ isCased c.toLower = isCased c ∧
    isCaseIgnorable c.toLower = isCaseIgnorable c ∧ (c.toLower = 'Σ' ↔ c = 'Σ') := by
  rcases toLower_cases c with hsame | ⟨n, hn, rfl⟩
  · rw [hsame]
    exact ⟨rfl, rfl, rfl, Iff.rfl⟩
  · have hall : ∀ n < 26, (Char.ofNat (65 + n)).toNat < 128 ∧ (Char.ofNat (65 + n)).toLower.toNat < 128 ∧
        (Char.ofNat (65 + n)).toLower.toLower = (Char.ofNat (65 + n)).toLower ∧
        isCased (Char.ofNat (65 + n)).toLower = isCased (Char.ofNat (65 + n)) ∧
        isCaseIgnorable (Char.ofNat (65 + n)).toLower = isCaseIgnorable (Char.ofNat (65 + n)) ∧
        ((Char.ofNat (65 + n)).toLower = 'Σ' ↔ Char.ofNat (65 + n) = 'Σ') := by decide +kernel
    obtain ⟨hcapital, hsmall, htwice, halike⟩ := hall n hn
    exact ⟨by rw [lowerChar_of_ascii hcapital, lowerChar_of_ascii hsmall, htwice], halike⟩

theorem meetsCased_asciiLowercase (text : Text) : meetsCased text.asciiLowercase = meetsCased text := by
  unfold asciiLowercase
  induction text with
  | nil => rfl
  | cons c rest ih =>
    obtain ⟨-, hcased, hignorable, -⟩ := toLower_alike c
    unfold meetsCased at ih ⊢
    rw [List.map_cons, List.dropWhile_cons, List.dropWhile_cons, hignorable]
    split
    · exact ih
    · simp [hcased]

/-- The lower case of a text does not depend on the case of its ASCII letters. -/
theorem lowercase_asciiLowercase (text : Text) : text.asciiLowercase.lowercase = text.lowercase := by
  have hfrom : ∀ before, lowercaseFrom (asciiLowercase before) text.asciiLowercase = lowercaseFrom before text := by
    induction text with
    | nil => exact fun _ => rfl
    | cons c rest ih =>
      intro before
      obtain ⟨hlower, -, -, hsigma⟩ := toLower_alike c
      have hrest : lowercaseFrom (c.toLower :: asciiLowercase before) (asciiLowercase rest) = _ := ih (c :: before)
      show lowercaseFrom _ (c.toLower :: asciiLowercase rest) = _
      rw [lowercaseFrom, lowercaseFrom, hrest, hlower, meetsCased_asciiLowercase, meetsCased_asciiLowercase]
      simp only [hsigma]
  exact hfrom []

/-- Texts that are equal up to the case of ASCII letters are equal in lower case. -/
theorem lowercase_eq_of_eqIgnoringAsciiCase {a b : Text} (h : a.eqIgnoringAsciiCase b = true) :
    a.lowercase = b.lowercase := by
  rw [← lowercase_asciiLowercase a, eqIgnoringAsciiCase_iff.1 h, lowercase_asciiLowercase]

end Text

namespace Registry

/-! ## Codes that are listed -/

/-- The code of an added vocabulary takes the place of the same code, up to the case of ASCII letters. -/
theorem map_code_insert (r : Registry) (e : Registered) :
    (r.insert e).locales.map (·.vocabulary.code) =
      ((r.locales.map (·.vocabulary.code)).filter fun code => !code.eqIgnoringAsciiCase e.vocabulary.code) ++
        [e.vocabulary.code] := by
  unfold insert
  rw [List.map_append, List.filter_map]
  rfl

section

variable [PatternEngine] [Toml.Reader]

/-- A registration adds this vocabulary to the list, and no later one adds one with the same code. -/
def ListedBy (rs : List Registration) (e : Registered) : Prop :=
  ∃ before s after, rs = before ++ s :: after ∧ s.outcome = .ok e ∧
    ∀ s' ∈ after, ∀ e', s'.outcome = .ok e' → ¬ e.vocabulary.code.eqIgnoringAsciiCase e'.vocabulary.code = true

theorem listedBy_of_mem_locales {rs : List Registration} {e : Registered} (h : e ∈ (run rs).locales) :
    ListedBy rs e := by
  induction rs using List.reverseRecOn with
  | nil => cases h
  | append_singleton rs s ih =>
    rw [run_concat] at h
    -- A vocabulary that was listed before is still listed only if its code is not that of the new one.
    have hkept (hmem : e ∈ (run rs).locales)
        (hs : ∀ e', s.outcome = .ok e' → ¬ e.vocabulary.code.eqIgnoringAsciiCase e'.vocabulary.code = true) :
        ListedBy (rs ++ [s]) e := by
      obtain ⟨before, own, after, rfl, hown, hafter⟩ := ih hmem
      refine ⟨before, own, after ++ [s], ?_, hown, ?_⟩
      · rw [List.append_assoc, List.cons_append]
      · simpa only [List.forall_mem_append, List.forall_mem_singleton] using And.intro hafter hs
    cases hs : s.outcome with
    | error e' =>
      rw [apply_of_error hs] at h
      exact hkept h (by simp [hs])
    | ok new =>
      rw [apply_of_ok hs] at h
      rcases List.mem_append.1 h with hmem | hmem
      · obtain ⟨hmem, hcode⟩ := List.mem_filter.1 hmem
        refine hkept hmem fun e' he' => ?_
        rw [hs] at he'
        cases he'
        simpa using hcode
      · obtain rfl := List.mem_singleton.1 hmem
        exact ⟨rs, s, [], rfl, hs, fun s' hs' => absurd hs' List.not_mem_nil⟩

/-- No two vocabularies in the list of locales have the same code. -/
theorem pairwise_locales (rs : List Registration) :
    (run rs).locales.Pairwise fun a b => ¬ a.vocabulary.code.eqIgnoringAsciiCase b.vocabulary.code = true := by
  induction rs using List.reverseRecOn with
  | nil => exact .nil
  | append_singleton rs s ih =>
    rw [run_concat]
    cases hs : s.outcome with
    | error e =>
      rw [apply_of_error hs]
      exact ih
    | ok new =>
      rw [apply_of_ok hs]
      refine List.pairwise_append.2 ⟨ih.filter _, List.pairwise_singleton _ _, fun old hold e he => ?_⟩
      obtain rfl := List.mem_singleton.1 he
      simpa using (List.mem_filter.1 hold).2

/-- No two listed codes are equal up to the case of ASCII letters. -/
theorem pairwise_codes (rs : List Registration) :
    (run rs).codes.Pairwise fun a b => ¬ a.eqIgnoringAsciiCase b = true := by
  unfold codes
  have hsymm : ∀ {a b : Text}, ¬ a.eqIgnoringAsciiCase b = true → ¬ b.eqIgnoringAsciiCase a = true := by
    intro a b h
    rw [Text.eqIgnoringAsciiCase_iff] at h ⊢
    exact Ne.symm h
  rw [(List.mergeSort_perm _ notAfter).pairwise_iff hsymm, List.pairwise_map]
  exact pairwise_locales rs

/-! ## What listed codes lead to -/

theorem LastUnder.append_left {rs : List Registration} {name : Text} {e : Registered} (h : LastUnder rs name e)
    (earlier : List Registration) : LastUnder (earlier ++ rs) name e := by
  obtain ⟨before, s, after, rfl, hs, hname, hafter⟩ := h
  exact ⟨earlier ++ before, s, after, by rw [List.append_assoc], hs, hname, hafter⟩

/-- From a registration with a name on, the last one with the name is this registration or a later one. -/
theorem exists_lastUnder_cons {s : Registration} {own : Registered} (hs : s.outcome = .ok own) {name : Text}
    (hname : HasName own.vocabulary name) (after : List Registration) :
    ∃ found, LastUnder (s :: after) name found ∧
      (found = own ∨ (∃ s' ∈ after, s'.outcome = .ok found) ∧ HasName found.vocabulary name) := by
  rcases lastUnder_or_noneUnder (s :: after) name with ⟨found, hlast⟩ | hnone
  · refine ⟨found, hlast, ?_⟩
    obtain ⟨before, last, later, hsplit, hfound, hfoundName, -⟩ := hlast
    -- The last one is the first of these registrations if there is nothing before it.
    cases before with
    | nil =>
      obtain ⟨rfl, -⟩ := List.cons.inj hsplit
      exact .inl (Except.ok.inj (hfound.symm.trans hs))
    | cons _ before =>
      obtain ⟨-, rfl⟩ := List.cons.inj hsplit
      exact .inr ⟨⟨last, by simp, hfound⟩, hfoundName⟩
  · exact absurd hname (hnone s (List.mem_cons_self ..) own hs)

/-- The parser of a vocabulary is one for its code. -/
theorem locale_of_outcome {s : Registration} {e : Registered} (h : s.outcome = .ok e) :
    e.parser.locale = e.vocabulary.code := by
  obtain ⟨v, -, h⟩ := bind_eq_ok.1 h
  obtain ⟨parser, hparser, h⟩ := bind_eq_ok.1 h
  cases h
  obtain ⟨-, -, hparser⟩ := bind_eq_ok.1 hparser
  obtain ⟨d, -, hparser⟩ := bind_eq_ok.1 hparser
  obtain ⟨stage, -, hparser⟩ := bind_eq_ok.1 hparser
  cases hparser
  rfl

/-- A vocabulary that was registered later than the one with a code has the code among its aliases. -/
def TakenOver (rs : List Registration) (code : Text) (found : Registered) : Prop :=
  ∃ before s after own, rs = before ++ s :: after ∧ s.outcome = .ok own ∧ own.vocabulary.code = code ∧
    (∃ s' ∈ after, s'.outcome = .ok found) ∧ ∃ taken ∈ found.vocabulary.aliases, taken.lowercase = code.lowercase

/-- A listed code leads to the last vocabulary registered under it, which has this code, up to case, or has taken it
over as an alias. -/
theorem exists_found_of_mem_codes {rs : List Registration} {code : Text} (h : code ∈ (run rs).codes) :
    ∃ found, LastUnder rs code found ∧
      (found.vocabulary.code.lowercase = code.lowercase ∨ TakenOver rs code found) := by
  obtain ⟨own, hown, rfl⟩ := List.mem_map.1 (List.mem_mergeSort.1 h)
  obtain ⟨before, s, after, rfl, hs, -⟩ := listedBy_of_mem_locales hown
  have hname : HasName own.vocabulary own.vocabulary.code := ⟨_, List.mem_cons_self .., rfl⟩
  obtain ⟨found, hlast, hfound⟩ := exists_lastUnder_cons hs hname after
  refine ⟨found, hlast.append_left before, ?_⟩
  rcases hfound with rfl | ⟨hlater, known, hknown, hequal⟩
  · exact .inl rfl
  · rcases List.mem_cons.1 hknown with rfl | hknown
    · exact .inl hequal
    · exact .inr ⟨before, s, after, own, rfl, hs, rfl, hlater, known, hknown, hequal⟩

/-! ### Codes that are the same name -/

/-- A vocabulary that is registered is listed, or a later one with its code is. -/
theorem exists_mem_codes {rs : List Registration} {s : Registration} (hs : s ∈ rs) {e : Registered}
    (he : s.outcome = .ok e) : ∃ code ∈ (run rs).codes, code.eqIgnoringAsciiCase e.vocabulary.code = true := by
  simp only [codes, List.mem_mergeSort]
  induction rs using List.reverseRecOn with
  | nil => cases hs
  | append_singleton rs last ih =>
    rw [run_concat]
    -- The code of the last registration takes the place of the same code, so it is the one to name then.
    rcases List.mem_append.1 hs with hs | hs
    · obtain ⟨code, hcode, hsame⟩ := ih hs
      cases hlast : last.outcome with
      | error _ =>
        rw [apply_of_error hlast]
        exact ⟨code, hcode, hsame⟩
      | ok new =>
        rw [apply_of_ok hlast, map_code_insert]
        by_cases hreplaced : code.eqIgnoringAsciiCase new.vocabulary.code = true
        · refine ⟨new.vocabulary.code, by simp, ?_⟩
          rw [Text.eqIgnoringAsciiCase_iff] at hreplaced hsame ⊢
          exact hreplaced.symm.trans hsame
        · exact ⟨code, List.mem_append_left _ (List.mem_filter.2 ⟨hcode, by simpa using hreplaced⟩), hsame⟩
    · obtain rfl := List.mem_singleton.1 hs
      rw [apply_of_ok he, map_code_insert]
      exact ⟨e.vocabulary.code, by simp, Text.eqIgnoringAsciiCase_iff.2 rfl⟩

/-- Codes that are registered differ in more than their case, or in the case of ASCII letters alone. -/
def HasAsciiCases (rs : List Registration) : Prop :=
  ∀ s ∈ rs, ∀ s' ∈ rs, ∀ e e', s.outcome = .ok e → s'.outcome = .ok e' →
    e.vocabulary.code.lowercase = e'.vocabulary.code.lowercase →
      e.vocabulary.code.eqIgnoringAsciiCase e'.vocabulary.code = true

/-- No two listed codes are the same name exactly if the codes that are registered have cases of ASCII letters only. -/
theorem pairwise_lowercase_codes_iff (rs : List Registration) :
    ((run rs).codes.Pairwise fun a b => a.lowercase ≠ b.lowercase) ↔ HasAsciiCases rs := by
  constructor
  · intro hdifferent s hs s' hs' e e' he he' hsame
    -- The listed codes that stand for these two are the same name, so there is only one.
    obtain ⟨a, ha, hcode⟩ := exists_mem_codes hs he
    obtain ⟨b, hb, hcode'⟩ := exists_mem_codes hs' he'
    have hname : a.lowercase = b.lowercase := by
      rw [Text.lowercase_eq_of_eqIgnoringAsciiCase hcode, hsame, Text.lowercase_eq_of_eqIgnoringAsciiCase hcode']
    obtain rfl : a = b := by
      by_contra hne
      have : Std.Symm fun a b : Text => a.lowercase ≠ b.lowercase := ⟨fun _ _ => Ne.symm⟩
      exact hdifferent.forall ha hb hne hname
    rw [Text.eqIgnoringAsciiCase_iff] at hcode hcode' ⊢
    exact hcode.symm.trans hcode'
  · intro hcases
    have hregistered : ∀ code ∈ (run rs).codes, ∃ s ∈ rs, ∃ e, s.outcome = .ok e ∧ e.vocabulary.code = code := by
      intro code hcode
      obtain ⟨e, he, rfl⟩ := List.mem_map.1 (List.mem_mergeSort.1 hcode)
      obtain ⟨before, s, after, rfl, hs, -⟩ := listedBy_of_mem_locales he
      exact ⟨s, by simp, e, hs, rfl⟩
    refine (pairwise_codes rs).imp_of_mem fun {a b} ha hb hne hsame => ?_
    obtain ⟨s, hs, e, he, rfl⟩ := hregistered a ha
    obtain ⟨s', hs', e', he', rfl⟩ := hregistered b hb
    exact hne (hcases s hs s' hs' e e' he he' hsame)

/-- **Listed codes.** After any registrations a listed code leads to the parser and the vocabulary registered last under
it, and it is listed with the name of that vocabulary. The vocabulary has this code, up to case, or it was registered
later than the one with the code and has taken the code over as an alias. No two listed codes are equal up to the case
of ASCII letters, so no two of ASCII letters are the same name. No two at all are the same name exactly if all codes
that are registered and equal up to case are equal up to the case of ASCII letters. -/
theorem codes_leadToLast (rs : List Registration) :
    (∀ code ∈ (run rs).codes, ∃ found, LastUnder rs code found ∧
      (run rs).get code = .ok found.parser ∧ found.parser.locale = found.vocabulary.code ∧
      (run rs).vocabulary code = .ok found.vocabulary ∧
      CommandLine.localeLine (run rs) code = Report.line (code ++ '\t' :: found.vocabulary.name) ∧
      (found.vocabulary.code.lowercase = code.lowercase ∨ TakenOver rs code found)) ∧
    ((run rs).codes.Pairwise fun a b =>
      ¬ a.eqIgnoringAsciiCase b = true ∧ (a.IsAscii → b.IsAscii → a.lowercase ≠ b.lowercase)) ∧
    (((run rs).codes.Pairwise fun a b => a.lowercase ≠ b.lowercase) ↔ HasAsciiCases rs) := by
  refine ⟨fun code hcode => ?_, (pairwise_codes rs).imp fun {a b} hne => ⟨hne, fun ha hb => ?_⟩,
    pairwise_lowercase_codes_iff rs⟩
  · obtain ⟨found, hlast, hown⟩ := exists_found_of_mem_codes hcode
    have hfind : (run rs).find? code = some found := find?_run_of_lastUnder hlast
    obtain ⟨hget, hvocabulary, -⟩ := answers_of_some hfind
    have hline : CommandLine.localeLine (run rs) code = Report.line (code ++ '\t' :: found.vocabulary.name) := by
      unfold CommandLine.localeLine
      rw [hfind]
      rfl
    obtain ⟨_, s, _, -, hs, -, -⟩ := id hlast
    exact ⟨found, hlast, hget, locale_of_outcome hs, hvocabulary, hline, hown⟩
  · -- For texts of ASCII letters, ignoring the case is the same as comparing in lower case.
    rwa [Text.lowercase_of_isAscii ha, Text.lowercase_of_isAscii hb, ne_eq, ← Text.eqIgnoringAsciiCase_iff]

end

/-- Two vocabularies whose codes differ are both registered, and both codes are listed. -/
theorem exists_run_pair {v w : Vocabulary} (hv : v.delimiter = Vocabulary.usualDelimiter)
    (hw : w.delimiter = Vocabulary.usualDelimiter) (hne : v.code.eqIgnoringAsciiCase w.code = false)
    (hle : notAfter v.code w.code = true) :
    ∃ first second, (Registration.vocabulary v).outcome = .ok ⟨v, first⟩ ∧
      (Registration.vocabulary w).outcome = .ok ⟨w, second⟩ ∧
      (run [.vocabulary v, .vocabulary w]).codes = [v.code, w.code] := by
  obtain ⟨first, hfirst⟩ := exists_outcome hv
  obtain ⟨second, hsecond⟩ := exists_outcome hw
  refine ⟨first, second, hfirst, hsecond, ?_⟩
  have hrun : run [.vocabulary v, .vocabulary w] = (Registry.insert {} ⟨v, first⟩).insert ⟨w, second⟩ := by
    unfold run
    rw [List.foldl_cons, List.foldl_cons, List.foldl_nil, apply_of_ok hfirst, apply_of_ok hsecond]
  unfold codes
  rw [hrun, map_code_insert, map_code_insert]
  show List.mergeSort (([v.code].filter fun code => !code.eqIgnoringAsciiCase w.code) ++ [w.code]) notAfter = _
  rw [List.filter_cons, hne]
  exact List.mergeSort_of_pairwise (by simpa using hle)

/-- A vocabulary, and a later one that has its code as an alias. -/
def takenCode : List Registration :=
  [.vocabulary (oneWord "en" "First" []), .vocabulary (oneWord "zz" "Second" ["EN"])]

/-- Two vocabularies whose codes differ in the case of a letter that is not an ASCII letter. -/
def accentedCode : List Registration :=
  [.vocabulary (oneWord "É" "First" []), .vocabulary (oneWord "é" "Second" [])]

theorem exists_run_takenCode : ∃ first second,
    (Registration.vocabulary (oneWord "en" "First" [])).outcome = .ok ⟨oneWord "en" "First" [], first⟩ ∧
    (Registration.vocabulary (oneWord "zz" "Second" ["EN"])).outcome = .ok ⟨oneWord "zz" "Second" ["EN"], second⟩ ∧
    (run takenCode).codes = ["en".toList, "zz".toList] :=
  exists_run_pair rfl rfl (by decide) (by decide)

/-- All registrations succeed. In the first registry the code of the first vocabulary is listed, but it leads to the
second one; in the second registry both codes are listed, though they are the same name. -/
theorem codes_takenAndAccented :
    ((∀ s ∈ takenCode, ∃ e, s.outcome = .ok e) ∧
      ¬ ∀ code ∈ (run takenCode).codes, ∃ v, (run takenCode).vocabulary code = .ok v ∧
        v.code.lowercase = code.lowercase) ∧
    (∀ s ∈ accentedCode, ∃ e, s.outcome = .ok e) ∧
      ¬ (run accentedCode).codes.Pairwise fun a b => a.lowercase ≠ b.lowercase := by
  constructor
  · obtain ⟨first, second, hfirst, hsecond, hlisted⟩ := exists_run_takenCode
    refine ⟨by simp [takenCode, hfirst, hsecond], fun hown => ?_⟩
    obtain ⟨v, hv, hcode⟩ := hown "en".toList (by simp [hlisted])
    have hlast : LastUnder takenCode "en".toList ⟨oneWord "zz" "Second" ["EN"], second⟩ :=
      ⟨[.vocabulary (oneWord "en" "First" [])], _, [], rfl, hsecond,
        show HasName (oneWord "zz" "Second" ["EN"]) "en".toList by decide +kernel,
        fun s hs => absurd hs List.not_mem_nil⟩
    have hvocabulary := (answers_of_some (find?_run_of_lastUnder hlast)).2.1
    obtain rfl := Except.ok.inj (hvocabulary.symm.trans hv)
    have hother : ¬ (oneWord "zz" "Second" ["EN"]).code.lowercase = Text.lowercase "en".toList := by decide +kernel
    exact hother hcode
  · obtain ⟨first, second, hfirst, hsecond, hlisted⟩ :=
      exists_run_pair (v := oneWord "É" "First" []) (w := oneWord "é" "Second" []) rfl rfl (by decide) (by decide)
    refine ⟨by simp [accentedCode, hfirst, hsecond], fun hdifferent => ?_⟩
    have hlisted : (run accentedCode).codes = ["É".toList, "é".toList] := hlisted
    rw [hlisted] at hdifferent
    have hsame : Text.lowercase "É".toList = Text.lowercase "é".toList := by decide +kernel
    exact List.rel_of_pairwise_cons hdifferent (List.mem_singleton.2 rfl) hsame

/-- Both codes are listed, and they are different names. The code of the first vocabulary leads to the last one that is
registered under it. -/
theorem codes_leadToLast_takenCode :
    (run takenCode).codes = ["en".toList, "zz".toList] ∧
    (∃ found, LastUnder takenCode "en".toList found ∧
      (run takenCode).get "en".toList = .ok found.parser ∧ found.parser.locale = found.vocabulary.code ∧
      (run takenCode).vocabulary "en".toList = .ok found.vocabulary ∧
      CommandLine.localeLine (run takenCode) "en".toList =
        Report.line ("en".toList ++ '\t' :: found.vocabulary.name) ∧
      (found.vocabulary.code.lowercase = Text.lowercase "en".toList ∨ TakenOver takenCode "en".toList found)) ∧
    Text.IsAscii "en".toList ∧ Text.IsAscii "zz".toList ∧
    Text.lowercase "en".toList ≠ Text.lowercase "zz".toList := by
  obtain ⟨-, -, -, -, hlisted⟩ := exists_run_takenCode
  obtain ⟨hlead, hdifferent, -⟩ := codes_leadToLast takenCode
  have hen : Text.IsAscii "en".toList := by simp [Text.IsAscii]
  have hzz : Text.IsAscii "zz".toList := by simp [Text.IsAscii]
  rw [hlisted] at hdifferent
  exact ⟨hlisted, hlead _ (by simp [hlisted]), hen, hzz,
    (List.rel_of_pairwise_cons hdifferent (List.mem_singleton.2 rfl)).2 hen hzz⟩

end Registry

end TextAnalysis
