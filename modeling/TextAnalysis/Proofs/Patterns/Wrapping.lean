/-
# Patterns of keys and delimiters

The pattern of a key stands in a group between the two ends of a text, and each of several delimiters stands in a group
of its own in a choice. The text of a key or of a delimiter is put into the group as it is written. It keeps its meaning
there unless it is completed by what stands around it: it may close the group and open another one, end in a comment in
which the closing parenthesis is lost, leave something open that a later delimiter closes, or give a name that was given
before.
-/
import TextAnalysis.Proofs.Dictionaries.Caches
import TextAnalysis.Proofs.Patterns.Choices
import TextAnalysis.Proofs.Patterns.Engines
import TextAnalysis.Proofs.Patterns.Nesting
import TextAnalysis.Tokenizer.Delimiters

namespace TextAnalysis

/-! ## Ends of a text -/

namespace Place

theorem listFrom_getElem? {index : Nat} {before : Option Char} {text : Text} {k : Nat} {place : Place}
    (h : (listFrom index before text)[k]? = some place) :
    (place.before.isNone = true ↔ k = 0 ∧ before = none) ∧ (place.after.isNone = true ↔ k = text.length) := by
  induction text generalizing index before k with
  | nil =>
    cases k with
    | zero =>
      cases h
      simp
    | succ k => cases h
  | cons c text ih =>
    cases k with
    | zero =>
      cases h
      simp
    | succ k =>
      obtain ⟨hbefore, hafter⟩ := ih h
      simp [hbefore, hafter]

/-- Only the first place is at the start of the text. -/
theorem textStart_iff {text : Text} {k : Nat} {place : Place} (h : (list text)[k]? = some place) :
    Assertion.textStart.holdsAt place = true ↔ k = 0 := by
  rw [Assertion.holdsAt, (listFrom_getElem? h).1, and_iff_left rfl]

/-- Only the last place is at the end of the text. -/
theorem textEnd_iff {text : Text} {k : Nat} {place : Place} (h : (list text)[k]? = some place) :
    Assertion.textEnd.holdsAt place = true ↔ k = text.length :=
  (listFrom_getElem? h).2

end Place

namespace Pattern

/-- A pattern between the start and the end of a text, with its depth. -/
def anchored (x : Pattern × Nat) : Pattern × Nat :=
  (inSequence [.holds .textStart, x.1, .holds .textEnd], x.2 + 2)

/-- Between the start and the end of a text a pattern can only match the whole text. -/
theorem matches_anchored_iff {x : Pattern × Nat} {text : Text} {start finish : Nat} :
    (anchored x).1.Matches text start finish ↔ start = 0 ∧ finish = text.length ∧ x.1.Matches text 0 text.length := by
  have hholds : ∀ {a : Assertion} {k : Nat} {place : Place} {qs : List Place}, (Place.list text)[k]? = some place →
      ((holds a).Spans ((Place.list text).drop k) qs ↔ (Place.list text).drop k = qs ∧ a.holdsAt place = true) := by
    intro a k place qs hplace
    simp only [Spans, List.head?_drop, hplace, Option.mem_some_iff, exists_eq_left']
  constructor
  · rintro ⟨hle, hfinish, hspans⟩
    -- The assertions hold at the places where the match starts and ends.
    obtain ⟨first, hfirst⟩ := Place.exists_place (Nat.le_trans hle hfinish)
    obtain ⟨last, hlast⟩ := Place.exists_place hfinish
    obtain ⟨_, hstart, mid, hp, ps, hend, heq⟩ := spans_inSequence.1 hspans
    obtain ⟨rfl, hfirstHolds⟩ := (hholds hfirst).1 hstart
    obtain rfl : ps = (Place.list text).drop finish := heq
    obtain ⟨rfl, hlastHolds⟩ : mid = (Place.list text).drop finish ∧ Assertion.textEnd.holdsAt last = true := by
      obtain ⟨rfl, place, hplace, hlastHolds⟩ := hend
      rw [List.head?_drop, hlast] at hplace
      cases hplace
      exact ⟨rfl, hlastHolds⟩
    obtain rfl := (Place.textStart_iff hfirst).1 hfirstHolds
    obtain rfl := (Place.textEnd_iff hlast).1 hlastHolds
    exact ⟨rfl, rfl, hle, hfinish, hp⟩
  · rintro ⟨rfl, rfl, hle, hfinish, hp⟩
    obtain ⟨first, hfirst⟩ := Place.exists_place (Nat.zero_le text.length)
    obtain ⟨last, hlast⟩ := Place.exists_place (Nat.le_refl text.length)
    refine ⟨hle, hfinish, spans_inSequence.2 ⟨_, (hholds hfirst).2 ⟨rfl, (Place.textStart_iff hfirst).2 rfl⟩, _, hp, _,
      (hholds hlast).2 ⟨rfl, (Place.textEnd_iff hlast).2 rfl⟩, rfl⟩⟩

end Pattern

/-! ## Keys -/

namespace Matcher

open Pattern

theorem wholePattern_eq (key : Text) : wholePattern key = '^' :: '(' :: '?' :: ':' :: (key ++ ')' :: ['$']) :=
  rfl

section

variable [CharSet.Tables]

/-- A key is read in the group around it as it is read alone. It closes no group that it has not opened, the parenthesis
behind it is not lost in a comment, and it keeps to the limits with what stands around it if it does so without it. -/
structure Separable (limits : Text → Prop) (key : Text) : Prop where
  closesNothing : syntaxOf key ≠ .error .unopenedGroup
  keeps : ∀ x, syntaxOf key = .ok x → KeepsParenthesis key
  limits_iff : ∀ x, syntaxOf key = .ok x → (limits key ↔ limits (wholePattern key))

/-- The group in which a key stands. -/
def keyGroup : OpenGroup :=
  ⟨false, {}, [], [.pattern (.holds .textStart) 0]⟩

theorem reaches_key (key : Text) :
    Reaches 2 {} (wholePattern key) (({} : State).within [keyGroup] []) (key ++ ')' :: ['$']) :=
  .step (c := '^') rfl rfl (.step (c := '(') rfl rfl (.refl _ _))

/-- The pattern of a key stands between the start and the end of a text. -/
theorem syntaxOf_wholePattern {key : Text} {x : Pattern × Nat} (h : syntaxOf key = .ok x)
    (hkeeps : KeepsParenthesis key) : syntaxOf (wholePattern key) = .ok (anchored x) := by
  obtain ⟨k, hreaches⟩ := reaches_of_syntaxOf h hkeeps keyGroup [] (fun _ _ => List.not_mem_nil) ['$']
  rw [((reaches_key key).trans (hreaches.trans (.step (c := '$') rfl rfl (.refl _ _)))).syntaxOf_eq (by rfl)]
  show Except.ok (inSequence [.holds .textStart, x.1, .holds .textEnd], depthOf [0, x.2 + 1, 0]) = _
  simp [anchored, depthOf]

/-- A key that is a pattern with what stands around it is one alone, unless it closes the group. -/
theorem of_syntaxOf_wholePattern {key : Text} {x : Pattern × Nat} (hcloses : syntaxOf key ≠ .error .unopenedGroup)
    (h : syntaxOf (wholePattern key) = .ok x) : ∃ y, syntaxOf key = .ok y := by
  cases hkey : syntaxOf key with
  | ok y => exact ⟨y, rfl⟩
  | error e =>
    have hlength : (wholePattern key).length + 1 = 2 + (key.length + 5) := by
      rw [wholePattern_eq]
      simp only [List.length_cons, List.length_append, List.length_nil]
      omega
    rw [syntaxOf, readAll, hlength, (reaches_key key).readFrom_eq] at h
    have hunopened : Unopened {} key :=
      (Unopened.of_within (List.cons_ne_nil _ _) h).of_append (by decide) (by decide) (Nat.lt_succ_self _) hkey
    exact absurd (syntaxOf_of_unopened hunopened) hcloses

variable {limits : Text → Prop} {key : Text}

/-- With what stands around it a key is a pattern if it is one alone. -/
theorem Separable.exists_syntaxOf_iff (h : Separable limits key) :
    (∃ y, syntaxOf (wholePattern key) = .ok y) ↔ ∃ x, syntaxOf key = .ok x := by
  constructor
  · rintro ⟨y, hy⟩
    exact of_syntaxOf_wholePattern h.closesNothing hy
  · rintro ⟨x, hx⟩
    exact ⟨_, syntaxOf_wholePattern hx (h.keeps x hx)⟩

/-- With what stands around it a key matches a text as a whole if it does so alone, and no part of it. -/
theorem Separable.writesMatch_iff (h : Separable limits key) {text : Text} {start finish : Nat} :
    WritesMatch (wholePattern key) text start finish ↔
      start = 0 ∧ finish = text.length ∧ WritesMatch key text 0 text.length := by
  constructor
  · rintro ⟨y, hy, hmatches⟩
    obtain ⟨x, hx⟩ := of_syntaxOf_wholePattern h.closesNothing hy
    cases hy.symm.trans (syntaxOf_wholePattern hx (h.keeps x hx))
    obtain ⟨hstart, hfinish, hwhole⟩ := matches_anchored_iff.1 hmatches
    exact ⟨hstart, hfinish, x, hx, hwhole⟩
  · rintro ⟨hstart, hfinish, x, hx, hwhole⟩
    exact ⟨_, syntaxOf_wholePattern hx (h.keeps x hx), matches_anchored_iff.2 ⟨hstart, hfinish, hwhole⟩⟩

end

/-! ### Keys of a matcher -/

section

variable [PatternEngine] {key : Text} {c : CompiledPattern}

theorem keyPattern_eq_ok_iff : keyPattern key = .ok c ↔ PatternEngine.compile (wholePattern key) = .ok c := by
  unfold keyPattern
  cases PatternEngine.compile (wholePattern key) with
  | ok c' => simp
  | error reason => simp

/-- The pattern matcher accepts a candidate in which the pattern of the key occurs. -/
theorem isMatch_pattern_eq_ok_iff {candidate : Text} : pattern.isMatch candidate key = .ok true ↔
    ∃ c, PatternEngine.compile (wholePattern key) = .ok c ∧ c.occurs candidate = true := by
  unfold isMatch score plainScore
  rw [map_map_eq, map_eq_ok]
  simp only [keyPattern_eq_ok_iff]
  refine exists_congr fun c => and_congr_right fun _ => ?_
  cases c.occurs candidate <;> simp

variable [CharSet.Tables] {limits : Text → Prop}

/-- A key has a pattern if it is accepted alone. -/
theorem exists_keyPattern_iff (hengine : PatternEngine.Follows limits) (h : Separable limits key) :
    (∃ c, keyPattern key = .ok c) ↔ ∃ c, PatternEngine.compile key = .ok c := by
  simp only [keyPattern_eq_ok_iff, hengine.compiles_iff, h.exists_syntaxOf_iff]
  refine and_congr_right ?_
  rintro ⟨x, hx⟩
  exact (h.limits_iff x hx).symm

/-- The pattern matcher accepts a candidate if the whole of it is a match of the key. -/
theorem isMatch_pattern_iff (hengine : PatternEngine.Follows limits) (h : Separable limits key) (candidate : Text) :
    pattern.isMatch candidate key = .ok true ↔
      (∃ c, PatternEngine.compile key = .ok c) ∧ WritesMatch key candidate 0 candidate.length := by
  rw [isMatch_pattern_eq_ok_iff, ← exists_keyPattern_iff hengine h]
  simp only [keyPattern_eq_ok_iff]
  constructor
  · rintro ⟨c, hc, hoccurs⟩
    obtain ⟨start, finish, hmatch⟩ := (hengine.occurs_iff _ c hc candidate).1 hoccurs
    exact ⟨⟨c, hc⟩, (h.writesMatch_iff.1 hmatch).2.2⟩
  · rintro ⟨⟨c, hc⟩, hwhole⟩
    exact ⟨c, hc, (hengine.occurs_iff _ c hc candidate).2 ⟨_, _, h.writesMatch_iff.2 ⟨rfl, rfl, hwhole⟩⟩⟩

/-- The pattern matcher fails exactly on keys that are not accepted alone. -/
theorem score_pattern_error_iff (hengine : PatternEngine.Follows limits) (h : Separable limits key)
    (candidate : Text) :
    (∃ reason, pattern.score candidate key = .error (.argument (.badKeyPattern key reason))) ↔
      ¬ ∃ c, PatternEngine.compile key = .ok c := by
  rw [← exists_keyPattern_iff hengine h, score]
  constructor
  · rintro ⟨reason, herror⟩ ⟨c, hc⟩
    rw [hc] at herror
    cases herror
  · intro hnone
    cases hkey : keyPattern key with
    | ok c => exact absurd ⟨c, hkey⟩ hnone
    | error e =>
      obtain ⟨reason, rfl⟩ := keyPattern_error hkey
      exact ⟨reason, rfl⟩

end

end Matcher

/-! ## Delimiters -/

namespace Delimiters

open Pattern

/-- What follows the group of a delimiter: the groups of the others, each after a bar. -/
def further : List Text → Text
  | [] => []
  | d :: ds => '|' :: '(' :: '?' :: ':' :: (d ++ ')' :: further ds)

/-- The groups of several delimiters. -/
theorem intercalate_grouped (d : Text) (ds : List Text) :
    ['|'].intercalate ((d :: ds).map grouped) = '(' :: '?' :: ':' :: (d ++ ')' :: further ds) := by
  induction ds generalizing d with
  | nil => simp [grouped, further, List.intercalate]
  | cons d' ds ih =>
    rw [further, ← ih d']
    simp [grouped, List.intercalate]

/-- A pattern as an alternative of its own, with its depth. -/
def alternative (x : Pattern × Nat) : Pattern × Nat :=
  (inSequence [x.1], x.2 + 1)

/-- The choice between alternatives, with its depth. -/
def choiceOf (alternatives : List (Pattern × Nat)) : Pattern × Nat :=
  (choice (alternatives.map (·.1)), depthOf (alternatives.map (·.2)))

/-- The choice between patterns matches what one of them matches. -/
theorem matches_choiceOf_iff {xs : List (Pattern × Nat)} {text : Text} {start finish : Nat} :
    (choiceOf (xs.map alternative)).1.Matches text start finish ↔ ∃ x ∈ xs, x.1.Matches text start finish := by
  have hspans : ∀ {a b : List Place}, (choiceOf (xs.map alternative)).1.Spans a b ↔ ∃ x ∈ xs, x.1.Spans a b := by
    intro a b
    rw [choiceOf, spans_choice, SpansAny]
    simp [alternative, spans_inSequence, inTurn_singleton]
  unfold Pattern.Matches
  rw [hspans]
  constructor
  · rintro ⟨hle, hfinish, x, hx, hspans⟩
    exact ⟨x, hx, hle, hfinish, hspans⟩
  · rintro ⟨x, hx, hle, hfinish, hspans⟩
    exact ⟨hle, hfinish, x, hx, hspans⟩

section

variable [CharSet.Tables]

/-- Delimiters are read in the groups around them as they are read alone. The parenthesis behind a delimiter that is a
pattern is not lost in a comment, one that is no pattern is not completed by what follows it, and no two give a name to
a group alike. -/
structure Apart (ds : List Text) : Prop where
  keeps : ∀ d ∈ ds, ∀ x, syntaxOf d = .ok x → KeepsParenthesis d
  notCompleted : ∀ before d after, ds = before ++ d :: after → (¬ ∃ x, syntaxOf d = .ok x) →
    syntaxOf (d ++ ')' :: further after) ≠ .error .unopenedGroup
  names : ds.Pairwise fun d d' => ∀ name ∈ namesOf d', name ∉ namesOf d

/-- Delimiters are read as alone, and together they keep to the limits if each of them does. -/
structure Separable (limits : Text → Prop) (ds : List Text) : Prop extends Apart ds where
  limits_iff : (∀ d ∈ ds, ∃ x, syntaxOf d = .ok x) →
    ((∀ d ∈ ds, limits d) ↔ limits (['|'].intercalate (ds.map grouped)))

theorem Apart.tail {d : Text} {ds : List Text} (h : Apart (d :: ds)) : Apart ds where
  keeps d' hd' := h.keeps d' (List.mem_cons_of_mem d hd')
  notCompleted before d' after hds := h.notCompleted (d :: before) d' after (by rw [hds, List.cons_append])
  names := h.names.of_cons

/-- The state of the reader in front of the group of a delimiter, behind others. -/
def front (alternatives : List (Pattern × Nat)) (names : List Text) : State :=
  { alternatives, names }

/-- The state of the reader behind the group of a delimiter. -/
def behind (alternatives : List (Pattern × Nat)) (names : List Text) (x : Pattern × Nat) : State :=
  { front alternatives names with items := [.pattern x.1 (x.2 + 1)] }

theorem reaches_inner (alternatives : List (Pattern × Nat)) (names : List Text) (text : Text) :
    Reaches 1 (front alternatives names) ('(' :: '?' :: ':' :: text)
      (({} : State).within [⟨false, {}, alternatives, []⟩] names) text :=
  .step (c := '(') rfl rfl (.refl _ _)

/-- Reading the group of a delimiter that is a pattern adds the pattern. -/
theorem reaches_group {d : Text} {x : Pattern × Nat} (h : syntaxOf d = .ok x) (hkeeps : KeepsParenthesis d)
    (alternatives : List (Pattern × Nat)) {names : List Text} (hnames : ∀ name ∈ namesOf d, name ∉ names)
    (later : Text) : ∃ k, Reaches k (front alternatives names) ('(' :: '?' :: ':' :: (d ++ ')' :: later))
      (behind alternatives (namesOf d ++ names) x) later := by
  obtain ⟨k, hreaches⟩ := reaches_of_syntaxOf h hkeeps ⟨false, {}, alternatives, []⟩ [] hnames later
  exact ⟨1 + k, (reaches_inner alternatives names _).trans hreaches⟩

/-- A bar ends an alternative. -/
theorem reaches_front (alternatives : List (Pattern × Nat)) (names : List Text) (x : Pattern × Nat) (text : Text) :
    Reaches 1 (behind alternatives names x) ('|' :: text) (front (alternative x :: alternatives) names) text :=
  .step (c := '|') rfl rfl (.refl _ _)

variable {d : Text} {ds : List Text}

/-- Names that are new for delimiters are still so behind the names of the first one. -/
theorem Apart.fresh {names : List Text} (h : Apart (d :: ds))
    (hnames : ∀ d' ∈ d :: ds, ∀ name ∈ namesOf d', name ∉ names) :
    ∀ d' ∈ ds, ∀ name ∈ namesOf d', name ∉ namesOf d ++ names := by
  intro d' hd' name hname hmem
  rcases List.mem_append.1 hmem with hmem | hmem
  · exact List.rel_of_pairwise_cons h.names hd' name hname hmem
  · exact hnames d' (List.mem_cons_of_mem d hd') name hname hmem

/-- Reading the groups of delimiters that are patterns ends in the choice between them. -/
theorem reaches_choice {x : Pattern × Nat} {xs : List (Pattern × Nat)} (h : Apart (d :: ds))
    (hx : List.Forall₂ (fun d x => syntaxOf d = .ok x) (d :: ds) (x :: xs)) (alternatives : List (Pattern × Nat))
    {names : List Text} (hnames : ∀ d' ∈ d :: ds, ∀ name ∈ namesOf d', name ∉ names) :
    ∃ k e, Reaches k (front alternatives names) ('(' :: '?' :: ':' :: (d ++ ')' :: further ds)) e [] ∧
      e.finish = .ok (choiceOf (alternatives.reverse ++ (x :: xs).map alternative)) := by
  induction ds generalizing d x xs alternatives names with
  | nil =>
    cases hx with
    | cons hd hrest =>
      cases hrest
      obtain ⟨k, hreaches⟩ := reaches_group hd (h.keeps d (List.mem_cons_self ..) x hd) alternatives
        (hnames d (List.mem_cons_self ..)) []
      refine ⟨k, _, hreaches, ?_⟩
      show Except.ok (choiceOf (alternative x :: alternatives).reverse) = _
      rw [List.reverse_cons]
      rfl
  | cons d' ds ih =>
    cases hx with
    | @cons _ _ _ _ hd hrest =>
      cases hrest with
      | @cons _ x' _ xs' hd' hrest' =>
        obtain ⟨k, hreaches⟩ := reaches_group hd (h.keeps d (List.mem_cons_self ..) x hd) alternatives
          (hnames d (List.mem_cons_self ..)) (further (d' :: ds))
        obtain ⟨l, e, hlater, hfinish⟩ := ih h.tail (.cons hd' hrest') (alternative x :: alternatives) (h.fresh hnames)
        refine ⟨k + (1 + l), e, hreaches.trans ((reaches_front _ _ x _).trans hlater), ?_⟩
        rw [hfinish, List.reverse_cons, List.append_assoc]
        rfl

/-- If the group of a delimiter is read, the delimiter is a pattern, unless what follows completes it. -/
theorem exists_syntaxOf_of_readAll {n : Nat} {y : Pattern × Nat} {alternatives : List (Pattern × Nat)}
    {names : List Text} {later : Text}
    (hcompleted : (¬ ∃ x, syntaxOf d = .ok x) → syntaxOf (d ++ ')' :: later) ≠ .error .unopenedGroup)
    (hn : 0 < n) (hread : readAll n (front alternatives names) ('(' :: '?' :: ':' :: (d ++ ')' :: later)) = .ok y) :
    ∃ x, syntaxOf d = .ok x := by
  by_contra hnone
  obtain ⟨m, rfl⟩ := Nat.exists_eq_add_of_le hn
  rw [readAll, (reaches_inner _ _ _).readFrom_eq] at hread
  exact hcompleted hnone (syntaxOf_of_unopened (Unopened.of_within (List.cons_ne_nil _ _) hread))

/-- If the groups of delimiters are read, the delimiters are patterns. -/
theorem forall_of_readAll {n : Nat} {y : Pattern × Nat} (h : Apart (d :: ds)) {alternatives : List (Pattern × Nat)}
    {names : List Text} (hnames : ∀ d' ∈ d :: ds, ∀ name ∈ namesOf d', name ∉ names)
    (hn : ('(' :: '?' :: ':' :: (d ++ ')' :: further ds)).length < n)
    (hread : readAll n (front alternatives names) ('(' :: '?' :: ':' :: (d ++ ')' :: further ds)) = .ok y) :
    ∀ d' ∈ d :: ds, ∃ x, syntaxOf d' = .ok x := by
  induction ds generalizing d n alternatives names with
  | nil =>
    exact List.forall_mem_singleton.2
      (exists_syntaxOf_of_readAll (h.notCompleted [] d [] rfl) (Nat.zero_lt_of_lt hn) hread)
  | cons d' ds ih =>
    obtain ⟨x, hx⟩ := exists_syntaxOf_of_readAll (h.notCompleted [] d (d' :: ds) rfl) (Nat.zero_lt_of_lt hn) hread
    refine List.forall_mem_cons.2 ⟨⟨x, hx⟩, ?_⟩
    -- The first delimiter is a pattern, so its group is read up to the next one.
    obtain ⟨k, hgroup⟩ := reaches_group hx (h.keeps d (List.mem_cons_self ..) x hx) alternatives
      (hnames d (List.mem_cons_self ..)) (further (d' :: ds))
    have hreaches := hgroup.trans (reaches_front _ _ x _)
    have hle := hreaches.le_length
    obtain ⟨m, rfl⟩ := Nat.exists_eq_add_of_le (Nat.le_trans (Nat.le_of_add_right_le hle) (Nat.le_of_lt hn))
    rw [readAll, hreaches.readFrom_eq] at hread
    exact ih h.tail (h.fresh hnames) (Nat.lt_of_add_lt_add_left (Nat.lt_of_le_of_lt hle hn)) hread

/-- Delimiters make a choice if each of them is a pattern. -/
theorem syntaxOf_intercalate_iff (h : Apart ds) (hne : ds ≠ []) {y : Pattern × Nat} :
    syntaxOf (['|'].intercalate (ds.map grouped)) = .ok y ↔
      ∃ xs, ds.mapM syntaxOf = .ok xs ∧ y = choiceOf (xs.map alternative) := by
  obtain ⟨d, ds, rfl⟩ := List.exists_cons_of_ne_nil hne
  have hnames : ∀ d' ∈ d :: ds, ∀ name ∈ namesOf d', name ∉ [] := fun _ _ _ _ => List.not_mem_nil
  have hsome : ∀ xs, (d :: ds).mapM syntaxOf = .ok xs →
      syntaxOf ('(' :: '?' :: ':' :: (d ++ ')' :: further ds)) = .ok (choiceOf (xs.map alternative)) := by
    intro xs hxs
    rw [mapM_eq_ok] at hxs
    cases xs with
    | nil => cases hxs
    | cons x xs =>
      obtain ⟨k, e, hreaches, hfinish⟩ := reaches_choice h hxs [] hnames
      exact (hreaches.syntaxOf_eq (skipBlanks_nil _)).trans hfinish
  rw [intercalate_grouped]
  constructor
  · intro hread
    obtain ⟨xs, hxs⟩ := exists_mapM_eq_ok_iff.2 (forall_of_readAll h hnames (Nat.lt_succ_self _) hread)
    rw [hsome xs hxs] at hread
    cases hread
    exact ⟨xs, hxs, rfl⟩
  · rintro ⟨xs, hxs, rfl⟩
    exact hsome xs hxs

/-- Together delimiters match what one of them matches, if they are patterns. -/
theorem Apart.writesMatch_iff (h : Apart ds) (hne : ds ≠ []) (hall : ∀ d ∈ ds, ∃ x, syntaxOf d = .ok x) {text : Text}
    {start finish : Nat} : WritesMatch (['|'].intercalate (ds.map grouped)) text start finish ↔
      ∃ d ∈ ds, WritesMatch d text start finish := by
  obtain ⟨xs, hxs⟩ := exists_mapM_eq_ok_iff.2 hall
  rw [Pattern.writesMatch_iff ((syntaxOf_intercalate_iff h hne).2 ⟨xs, hxs, rfl⟩), matches_choiceOf_iff]
  simp only [mem_iff_of_mapM_eq_ok hxs]
  constructor
  · rintro ⟨x, ⟨d, hd, hx⟩, hmatches⟩
    exact ⟨d, hd, x, hx, hmatches⟩
  · rintro ⟨d, hd, x, hx, hmatches⟩
    exact ⟨x, ⟨d, hd, hx⟩, hmatches⟩

/-- Together delimiters are a pattern if each of them is. -/
theorem Apart.exists_syntaxOf_iff (h : Apart ds) (hne : ds ≠ []) :
    (∃ y, syntaxOf (['|'].intercalate (ds.map grouped)) = .ok y) ↔ ∀ d ∈ ds, ∃ x, syntaxOf d = .ok x := by
  rw [← exists_mapM_eq_ok_iff]
  simp only [syntaxOf_intercalate_iff h hne]
  exact ⟨fun ⟨_, xs, hxs, _⟩ => ⟨xs, hxs⟩, fun ⟨xs, hxs⟩ => ⟨_, xs, hxs, rfl⟩⟩

end

/-! ### Delimiters of a tokenizer -/

section

variable [PatternEngine] {ds : List Text}

/-- Delimiters can be put together if there are some, none is empty and the choice between them is accepted. -/
theorem anyOf_eq_ok_iff {delimiters : Delimiters} : anyOf ds = .ok delimiters ↔ ds ≠ [] ∧ [] ∉ ds ∧
    ∃ c, PatternEngine.compile (['|'].intercalate (ds.map grouped)) = .ok c ∧
      delimiters = ⟨['|'].intercalate (ds.map grouped), c⟩ := by
  have hempty : ds.any (·.isEmpty) = true ↔ [] ∈ ds := by simp
  unfold anyOf
  by_cases hmem : [] ∈ ds
  · rw [if_pos (hempty.2 hmem)]
    exact ⟨nofun, fun h => absurd hmem h.2.1⟩
  rw [if_neg (mt hempty.1 hmem)]
  by_cases hne : ds = []
  · rw [hne]
    exact ⟨nofun, fun h => absurd rfl h.1⟩
  rw [if_neg (mt List.isEmpty_iff.1 hne)]
  -- The groups around the delimiters make the source of the pattern not empty.
  have hsource : ¬ (['|'].intercalate (ds.map grouped)).isEmpty = true := by
    obtain ⟨d, ds, rfl⟩ := List.exists_cons_of_ne_nil hne
    rw [intercalate_grouped]
    exact Bool.false_ne_true
  rw [make, if_neg hsource]
  constructor
  · intro hmake
    split at hmake
    · rename_i c hc
      cases hmake
      exact ⟨hne, hmem, c, hc, rfl⟩
    · cases hmake
  · rintro ⟨-, -, c, hc, rfl⟩
    rw [hc]

variable [CharSet.Tables] {limits : Text → Prop}

/-- The choice between delimiters is accepted if each of them is. -/
theorem compiles_intercalate_iff (hengine : PatternEngine.Follows limits) (h : Separable limits ds) (hne : ds ≠ []) :
    (∃ c, PatternEngine.compile (['|'].intercalate (ds.map grouped)) = .ok c) ↔
      ∀ d ∈ ds, ∃ c, PatternEngine.compile d = .ok c := by
  simp only [hengine.compiles_iff, h.exists_syntaxOf_iff hne, forall₂_and]
  exact and_congr_right fun hall => (h.limits_iff hall).symm

/-- Delimiters can be put together if there are some, none is empty and each of them is accepted. -/
theorem exists_anyOf_iff (hengine : PatternEngine.Follows limits) (h : Separable limits ds) :
    (∃ delimiters, anyOf ds = .ok delimiters) ↔
      ds ≠ [] ∧ ∀ d ∈ ds, d ≠ [] ∧ ∃ c, PatternEngine.compile d = .ok c := by
  simp only [anyOf_eq_ok_iff]
  constructor
  · rintro ⟨_, hne, hmem, c, hc, -⟩
    have hall := (compiles_intercalate_iff hengine h hne).1 ⟨c, hc⟩
    exact ⟨hne, fun d hd => ⟨fun hempty => hmem (hempty ▸ hd), hall d hd⟩⟩
  · rintro ⟨hne, hall⟩
    obtain ⟨c, hc⟩ := (compiles_intercalate_iff hengine h hne).2 fun d hd => (hall d hd).2
    exact ⟨_, hne, fun hmem => (hall [] hmem).1 rfl, c, hc, rfl⟩

/-- What delimiters match together is what one of them matches. -/
theorem writesMatch_anyOf_iff (hengine : PatternEngine.Follows limits) (h : Separable limits ds)
    {delimiters : Delimiters} (hany : anyOf ds = .ok delimiters) {text : Text} {start finish : Nat} :
    WritesMatch delimiters.source text start finish ↔ ∃ d ∈ ds, WritesMatch d text start finish := by
  obtain ⟨hne, -, c, hc, rfl⟩ := anyOf_eq_ok_iff.1 hany
  have hall := (compiles_intercalate_iff hengine h hne).1 ⟨c, hc⟩
  exact h.writesMatch_iff hne fun d hd => ((hengine.compiles_iff d).1 (hall d hd)).1

/-- They occur where one of them occurs. -/
theorem occurs_anyOf_iff (hengine : PatternEngine.Follows limits) (h : Separable limits ds) {delimiters : Delimiters}
    (hany : anyOf ds = .ok delimiters) (text : Text) : delimiters.pattern.occurs text = true ↔
      ∃ d ∈ ds, ∃ c, PatternEngine.compile d = .ok c ∧ c.occurs text = true := by
  have hmatch : ∀ start finish, WritesMatch delimiters.source text start finish ↔ _ :=
    fun start finish => writesMatch_anyOf_iff hengine h hany
  obtain ⟨hne, -, c, hc, rfl⟩ := anyOf_eq_ok_iff.1 hany
  have hall := (compiles_intercalate_iff hengine h hne).1 ⟨c, hc⟩
  rw [hengine.occurs_iff _ c hc]
  simp only [hmatch]
  constructor
  · rintro ⟨start, finish, d, hd, hwrites⟩
    obtain ⟨c', hc'⟩ := hall d hd
    exact ⟨d, hd, c', hc', (hengine.occurs_iff d c' hc' text).2 ⟨start, finish, hwrites⟩⟩
  · rintro ⟨d, hd, c', hc', hoccurs⟩
    obtain ⟨start, finish, hwrites⟩ := (hengine.occurs_iff d c' hc' text).1 hoccurs
    exact ⟨start, finish, d, hd, hwrites⟩

end

end Delimiters

/-! ## Wrapped patterns -/

open Pattern

/-- **Patterns keep their meaning in the groups around them**, whatever engine follows their syntax. The pattern matcher
accepts a candidate if the key is accepted alone and the whole candidate is one of its matches. It fails on a key that
is not accepted alone and on no other, and with a cache it scores the same and keeps just the patterns. Delimiters can
be put together if there are some, none is empty and each of them is accepted alone. They match what one of them
matches: a text is cut at matches of one of them, and every match of one of them starts inside of such a cut or at an
end of it. -/
theorem wrapping_keepsMeaning [CharSet.Tables] [PatternEngine] {limits : Text → Prop}
    (hengine : PatternEngine.Follows limits) (key candidate : Text) (cache : PatternCache) (ds : List Text) :
    (Matcher.Separable limits key → cache.Sound →
      (Matcher.pattern.isMatch candidate key = .ok true ↔
        (∃ c, PatternEngine.compile key = .ok c) ∧ WritesMatch key candidate 0 candidate.length) ∧
      ((∃ reason, Matcher.pattern.score candidate key = .error (.argument (.badKeyPattern key reason))) ↔
        ¬ ∃ c, PatternEngine.compile key = .ok c) ∧
      (Matcher.pattern.scoreCached cache candidate key).1 = Matcher.pattern.score candidate key ∧
      (Matcher.pattern.scoreCached cache candidate key).2.Sound ∧
      ((∃ q, (key, q) ∈ (Matcher.pattern.scoreCached cache candidate key).2.compiled) ↔
        ∃ c, PatternEngine.compile key = .ok c) ∧
      ((¬ ∃ c, PatternEngine.compile key = .ok c) →
        (Matcher.pattern.scoreCached cache candidate key).2 = cache)) ∧
    (Delimiters.Separable limits ds →
      ((∃ delimiters, Delimiters.anyOf ds = .ok delimiters) ↔
        ds ≠ [] ∧ ∀ d ∈ ds, d ≠ [] ∧ ∃ c, PatternEngine.compile d = .ok c) ∧
      ∀ delimiters, Delimiters.anyOf ds = .ok delimiters → ∀ text,
        (∀ start finish, WritesMatch delimiters.source text start finish ↔
          ∃ d ∈ ds, WritesMatch d text start finish) ∧
        (delimiters.pattern.occurs text = true ↔
          ∃ d ∈ ds, ∃ c, PatternEngine.compile d = .ok c ∧ c.occurs text = true) ∧
        (∀ s ∈ delimiters.pattern.find text, ∃ d ∈ ds, ∃ start finish,
          WritesMatch d text start finish ∧ s = ByteSpan.ofPositions text (start, finish)) ∧
        ∀ d ∈ ds, ∀ start finish, WritesMatch d text start finish →
          ∃ s ∈ delimiters.pattern.find text,
            s.start ≤ text.byteOffset start ∧ text.byteOffset start ≤ s.finish) := by
  constructor
  · intro hkey hcache
    obtain ⟨-, hsound, hkept, hsame⟩ := hcache.get key
    obtain ⟨hscore, hget⟩ := Matcher.scoreCached_pattern hcache candidate key
    rw [← hget, Matcher.exists_keyPattern_iff hengine hkey] at hkept hsame
    exact ⟨Matcher.isMatch_pattern_iff hengine hkey candidate,
      Matcher.score_pattern_error_iff hengine hkey candidate, hscore, hget ▸ hsound, hkept, hsame⟩
  · intro hds
    refine ⟨Delimiters.exists_anyOf_iff hengine hds, fun delimiters hany text => ?_⟩
    have hmatch : ∀ start finish, WritesMatch delimiters.source text start finish ↔ _ :=
      fun start finish => Delimiters.writesMatch_anyOf_iff hengine hds hany
    have hcompile : PatternEngine.compile delimiters.source = .ok delimiters.pattern := by
      obtain ⟨-, -, c, hc, rfl⟩ := Delimiters.anyOf_eq_ok_iff.1 hany
      exact hc
    refine ⟨hmatch, Delimiters.occurs_anyOf_iff hengine hds hany text, fun s hs => ?_,
      fun d hd start finish hwrites => ?_⟩
    · obtain ⟨start, finish, hwrites, heq⟩ := hengine.finds _ _ hcompile text s hs
      obtain ⟨d, hd, hwrites⟩ := (hmatch start finish).1 hwrites
      exact ⟨d, hd, start, finish, hwrites, heq⟩
    · exact hengine.covers _ _ hcompile text start finish ((hmatch start finish).2 ⟨d, hd, hwrites⟩)

/-! ### Keys and delimiters that keep their meaning, and ones that do not -/

/-- Alternatives in a key keep to the group around it. -/
theorem separable_alternatives : Matcher.Separable KeepsLimits "a|b".toList where
  closesNothing := nofun
  keeps _ _ := rfl
  limits_iff _ _ := by
    refine iff_of_true ?_ ?_
    · exact keepsLimits_of_admitted rfl ⟨by decide, by decide +kernel⟩
    · exact keepsLimits_of_admitted rfl ⟨by decide, by decide +kernel⟩

/-- So do alternatives and flags in delimiters. -/
theorem separable_alternativesAndFlags :
    Delimiters.Separable KeepsLimits ["a|b".toList, "(?m)^c".toList] where
  keeps := List.forall_mem_cons.2 ⟨fun _ _ => rfl, List.forall_mem_singleton.2 fun _ _ => rfl⟩
  notCompleted before d after hds hnone := by
    have hvalid : ∀ d ∈ ["a|b".toList, "(?m)^c".toList], ∃ x, syntaxOf d = .ok x :=
      List.forall_mem_cons.2 ⟨⟨_, rfl⟩, List.forall_mem_singleton.2 ⟨_, rfl⟩⟩
    exact absurd (hvalid d (hds ▸ List.mem_append_right before (List.mem_cons_self ..))) hnone
  names := List.pairwise_pair.2 nofun
  limits_iff _ := by
    refine iff_of_true (List.forall_mem_cons.2 ⟨?_, List.forall_mem_singleton.2 ?_⟩) ?_
    · exact keepsLimits_of_admitted rfl ⟨by decide, by decide +kernel⟩
    · exact keepsLimits_of_admitted rfl ⟨by decide, by decide +kernel⟩
    · exact keepsLimits_of_admitted rfl ⟨by decide, by decide +kernel⟩

/-- The second of two alternatives is accepted as a whole, and delimiters with alternatives and flags can be put
together, match it and are found at its start. -/
theorem wrapping_keepsMeaning_alternatives :
    Matcher.pattern.isMatch "b".toList "a|b".toList = .ok true ∧
      ∃ delimiters, Delimiters.anyOf ["a|b".toList, "(?m)^c".toList] = .ok delimiters ∧
        WritesMatch delimiters.source "b".toList 0 1 ∧
        ∃ s ∈ delimiters.pattern.find "b".toList, s.start ≤ 0 ∧ 0 ≤ s.finish := by
  have hcompiles : ∀ d ∈ ["a|b".toList, "(?m)^c".toList], ∃ c, PatternEngine.compile d = .ok c :=
    List.forall_mem_cons.2 ⟨⟨_, compile_eq_ok_iff.2 ⟨_, rfl, ⟨by decide, by decide +kernel⟩, rfl⟩⟩,
      List.forall_mem_singleton.2 ⟨_, compile_eq_ok_iff.2 ⟨_, rfl, ⟨by decide, by decide +kernel⟩, rfl⟩⟩⟩
  have hwrites : WritesMatch "a|b".toList "b".toList 0 1 := ⟨_, rfl, by decide, by decide, _, rfl, by decide⟩
  obtain ⟨hkey, hds⟩ := wrapping_keepsMeaning follows_engine "a|b".toList "b".toList {}
    ["a|b".toList, "(?m)^c".toList]
  obtain ⟨hany, hchoice⟩ := hds separable_alternativesAndFlags
  obtain ⟨delimiters, hdelimiters⟩ := hany.2
    ⟨List.cons_ne_nil _ _, List.forall_mem_cons.2 ⟨⟨nofun, hcompiles _ (List.mem_cons_self ..)⟩,
      List.forall_mem_singleton.2 ⟨nofun, hcompiles _ (List.mem_cons_of_mem _ (List.mem_singleton_self _))⟩⟩⟩
  obtain ⟨hmatch, -, -, hcovers⟩ := hchoice delimiters hdelimiters "b".toList
  exact ⟨(hkey separable_alternatives PatternCache.sound_empty).1.2 ⟨hcompiles _ (List.mem_cons_self ..), hwrites⟩,
    delimiters, hdelimiters, (hmatch 0 1).2 ⟨_, List.mem_cons_self .., hwrites⟩,
    hcovers _ (List.mem_cons_self ..) 0 1 hwrites⟩

/-- A key that is no pattern alone is accepted, and so is a delimiter. -/
theorem wrapping_closedGroup :
    (¬ ∃ c, PatternEngine.compile "a)|(?:b".toList = .ok c) ∧
      Matcher.pattern.isMatch "a".toList "a)|(?:b".toList = .ok true ∧
      ∃ delimiters, Delimiters.anyOf ["a)|(?:b".toList] = .ok delimiters := by
  refine ⟨?_, ?_, ?_⟩
  · rintro ⟨c, hc⟩
    obtain ⟨x, hx, -⟩ := compile_eq_ok_iff.1 hc
    cases hx
  · -- Around the key stand the start of the text before its first part and the end of the text behind its second one.
    have hwritten : syntaxOf (Matcher.wholePattern "a)|(?:b".toList) =
        .ok (.either (.sequence (.holds .textStart) (.one (.single 'a')))
          (.sequence (.one (.single 'b')) (.holds .textEnd)), 3) := rfl
    have hcompile := compile_eq_ok_iff.2 ⟨_, hwritten, ⟨by decide, by decide +kernel⟩, rfl⟩
    refine Matcher.isMatch_pattern_eq_ok_iff.2 ⟨_, hcompile, occursIn_iff.2 ⟨0, 1, by decide, by decide, ?_⟩⟩
    exact .inl ⟨_, ⟨rfl, _, rfl, by decide⟩, _, rfl, by decide⟩
  · have hcompile : ∃ c, PatternEngine.compile "(?:a)|(?:b)".toList = .ok c :=
      ⟨_, compile_eq_ok_iff.2 ⟨_, rfl, ⟨by decide, by decide +kernel⟩, rfl⟩⟩
    obtain ⟨c, hc⟩ := hcompile
    exact ⟨_, Delimiters.anyOf_eq_ok_iff.2 ⟨List.cons_ne_nil _ _, by decide, c, hc, rfl⟩⟩

end TextAnalysis
