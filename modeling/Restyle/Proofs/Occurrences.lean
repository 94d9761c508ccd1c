import Restyle.Proofs.Reported

/-!
# Selectors and their occurrences

Three views of the selectors of a text. They are its matches in order, one for each dot with a name
symbol right behind it (`selectors_eq_map_matchesIn`, `existsUnique_match_iff`). They are the only list
with which the text is made up of gaps and selectors by turns (`selectors_eq_iff`), which comes from one
law: a text is cut at a selector that stands in it (`selectors_append`). And wherever the text of a
selector occurs, a match begins that goes on at least as far (`exists_match_of_occurrence`).
-/

namespace Restyle

open Script Text

/-- The characters of names, written out. -/
theorem isNameChar_iff {c : Char} : isNameChar c = true ↔
    ('A' ≤ c ∧ c ≤ 'Z') ∨ ('a' ≤ c ∧ c ≤ 'z') ∨ ('0' ≤ c ∧ c ≤ '9') ∨ c = '_' ∨ c = '-' := by
  have hupper : c.isUpper = true ↔ 'A' ≤ c ∧ c ≤ 'Z' := decide_eq_true_iff
  have hlower : c.isLower = true ↔ 'a' ≤ c ∧ c ≤ 'z' :=
    Bool.and_eq_true_iff.trans (and_congr decide_eq_true_iff decide_eq_true_iff)
  have hdigit : c.isDigit = true ↔ '0' ≤ c ∧ c ≤ '9' :=
    Bool.and_eq_true_iff.trans (and_congr decide_eq_true_iff decide_eq_true_iff)
  have hletter : c.isAlpha = true ↔ c.isUpper = true ∨ c.isLower = true := Bool.or_eq_true_iff
  have hplain : c.isAlphanum = true ↔ c.isAlpha = true ∨ c.isDigit = true := Bool.or_eq_true_iff
  simp only [isNameChar, Bool.or_eq_true, beq_iff_eq, hplain, hletter, hupper, hlower, hdigit,
    or_assoc]

/-- No other glyph is one of them. -/
theorem isNameGlyph_iff {g : Glyph} :
    isNameGlyph g = true ↔ ∃ c, g = .char c ∧ isNameChar c = true := by
  cases g with
  | char c => simp [isNameGlyph]
  | stray b => simp [isNameGlyph]
  | lone n => simp [isNameGlyph]

variable {α : Type} [Script α]

/-! ## Matches -/

/-- The text of a match. -/
def Match.text (m : Match α) : List α :=
  dot :: m.name

/-- No match stands in a text. -/
def IsGap (text : List α) : Prop :=
  ∀ m : Match α, ¬ m.In text

theorem isGap_nil : IsGap ([] : List α) := by
  rintro m ⟨-, after, htext, -⟩
  simp at htext

/-- A symbol in front of a gap makes no match, unless it is a dot and a name begins behind it. -/
theorem IsGap.cons {c : α} {gap : List α} (h : IsGap gap) (hc : c = dot → EndsName gap) :
    IsGap (c :: gap) := by
  rintro ⟨before, name⟩ ⟨hname, after, htext, hends⟩
  cases before with
  | nil =>
    obtain ⟨rfl, hgap⟩ : c = dot ∧ gap = name ++ after := List.cons.inj htext
    obtain ⟨a, name, rfl⟩ := List.exists_cons_of_ne_nil hname.1
    have hyes : isName a = true := hname.2 a List.mem_cons_self
    rw [hc rfl a (name ++ after) hgap] at hyes
    exact Bool.false_ne_true hyes
  | cons d before => exact h ⟨before, name⟩ ⟨hname, after, (List.cons.inj htext).2, hends⟩

/-- A name has no match in it. -/
theorem Script.IsName.isGap {name : List α} (h : IsName name) : IsGap name := by
  rintro m ⟨-, after, htext, -⟩
  exact h.dot_not_mem (by rw [htext]; simp)

theorem filterMap_selector? (before : List α) (segs : List (Segment α)) :
    segs.filterMap Segment.selector? = (matchesFrom before segs).map Match.text := by
  induction segs generalizing before with
  | nil => rfl
  | cons seg segs ih =>
    cases seg with
    | symbol c => rw [List.filterMap_cons_none rfl, matchesFrom, ih (before ++ [c])]
    | selector name =>
      have hfirst : (Segment.selector name).selector? = some (dot :: name) := rfl
      rw [List.filterMap_cons_some hfirst, matchesFrom, List.map_cons, ih (before ++ dot :: name)]
      rfl

variable [DecidableEq α]

/-- The selectors of a text are its matches, from left to right. -/
theorem selectors_eq_map_matchesIn (text : List α) :
    selectors text = (matchesIn text).map Match.text := by
  rw [selectors_eq, filterMap_selector? [], matchesIn]

theorem exists_name_of_mem_selectors {text s : List α} (h : s ∈ selectors text) :
    ∃ name, IsName name ∧ s = dot :: name := by
  rw [selectors_eq_map_matchesIn] at h
  obtain ⟨m, hm, rfl⟩ := List.mem_map.1 h
  exact ⟨m.name, (mem_matchesIn.1 hm).isName, rfl⟩

theorem selectors_of_isGap {gap : List α} (h : IsGap gap) : selectors gap = [] := by
  rw [selectors_eq_map_matchesIn, List.map_eq_nil_iff, List.eq_nil_iff_forall_not_mem]
  exact fun m hm => h m (mem_matchesIn.1 hm)

/-- There is one match for each dot that has a name symbol right behind it, and no other. -/
theorem existsUnique_match_iff {text before : List α} :
    (∃! m, m ∈ matchesIn text ∧ m.before = before) ↔
      ∃ a rest, text = before ++ dot :: a :: rest ∧ isName a = true := by
  constructor
  · rintro ⟨m, ⟨hm, rfl⟩, -⟩
    obtain ⟨hname, after, htext, -⟩ := mem_matchesIn.1 hm
    obtain ⟨a, rest, hcons⟩ := List.exists_cons_of_ne_nil hname.1
    rw [hcons] at hname htext
    exact ⟨a, rest ++ after, htext, hname.2 a List.mem_cons_self⟩
  · rintro ⟨a, rest, htext, ha⟩
    -- The match is the longest run behind the dot.
    have hrun := List.takeWhile_append_dropWhile (p := isName) (l := a :: rest)
    have hname : IsName ((a :: rest).takeWhile isName) := by
      refine ⟨?_, List.all_eq_true.1 List.all_takeWhile⟩
      rw [List.takeWhile_cons_of_pos ha]
      exact List.cons_ne_nil _ _
    refine ⟨⟨before, (a :: rest).takeWhile isName⟩, ⟨mem_matchesIn.2 ⟨hname, _, ?_,
      endsName_dropWhile (a :: rest)⟩, rfl⟩, ?_⟩
    · rw [hrun, htext]
    · rintro ⟨_, name⟩ ⟨hm, rfl⟩
      obtain ⟨hname', after, htext', hends⟩ := mem_matchesIn.1 hm
      have hsame : a :: rest = name ++ after :=
        (List.cons.inj (List.append_cancel_left (htext.symm.trans htext'))).2
      rw [hsame, takeWhile_name hname'.2 hends]

/-! ## Gaps and selectors by turns -/

/-- A text that is made up of gaps and of these selectors by turns; each selector goes on as far as
there are name symbols. -/
inductive Interleaved : List α → List (List α) → Prop
  | last {gap : List α} : IsGap gap → Interleaved gap []
  | next {gap name rest : List α} {found : List (List α)} : IsGap gap → IsName name →
      EndsName rest → Interleaved rest found →
      Interleaved (gap ++ dot :: (name ++ rest)) ((dot :: name) :: found)

/-- A text is cut at a selector that stands in it. -/
theorem selectors_append {left name rest : List α} (hname : IsName name) (hrest : EndsName rest) :
    selectors (left ++ dot :: (name ++ rest)) =
      selectors left ++ (dot :: name) :: selectors rest := by
  have hcut : WellCut (segments left ++ .selector name :: segments rest) :=
    (wellCut_segments left).append
      (.selector hname (by rwa [textOf_segments]) (wellCut_segments rest)) (endsName_dot _)
  have htext : left ++ dot :: (name ++ rest) =
      textOf (segments left ++ .selector name :: segments rest) := by simp
  have hfirst : (Segment.selector name).selector? = some (dot :: name) := rfl
  rw [selectors_eq, htext, segments_textOf hcut, List.filterMap_append,
    List.filterMap_cons_some hfirst, ← selectors_eq, ← selectors_eq]

omit [DecidableEq α] in
/-- A symbol in front goes into the first gap. -/
theorem Interleaved.cons {c : α} {text : List α} {found : List (List α)} (h : Interleaved text found)
    (hc : c = dot → EndsName text) : Interleaved (c :: text) found := by
  cases h with
  | last hgap => exact .last (hgap.cons hc)
  | @next gap name rest found hgap hname hrest hfound =>
    have hcgap : IsGap (c :: gap) := by
      refine hgap.cons fun hdot a b hab => ?_
      exact hc hdot a (b ++ dot :: (name ++ rest)) (by rw [hab]; rfl)
    exact .next hcgap hname hrest hfound

omit [DecidableEq α] in
theorem WellCut.interleaved {segs : List (Segment α)} (h : WellCut segs) :
    Interleaved (textOf segs) (segs.filterMap Segment.selector?) := by
  induction h with
  | nil => exact .last isGap_nil
  | symbol hdot _ ih =>
    rw [List.filterMap_cons_none rfl]
    exact ih.cons hdot
  | @selector name rest hname hrest _ ih =>
    have hfirst : (Segment.selector name).selector? = some (dot :: name) := rfl
    rw [List.filterMap_cons_some hfirst]
    exact .next isGap_nil hname hrest ih

theorem interleaved_selectors (text : List α) : Interleaved text (selectors text) := by
  have hcut := (wellCut_segments text).interleaved
  rwa [textOf_segments, ← selectors_eq] at hcut

/-- The selectors of a text are the only ones with which it is made up of gaps and selectors. -/
theorem selectors_eq_iff {text : List α} {found : List (List α)} :
    selectors text = found ↔ Interleaved text found := by
  constructor
  · rintro rfl
    exact interleaved_selectors text
  · intro h
    induction h with
    | last hgap => exact selectors_of_isGap hgap
    | next hgap hname hrest _ ih =>
      rw [selectors_append hname hrest, selectors_of_isGap hgap, ih, List.nil_append]

/-! ## Occurrences -/

/-- Where the text of a selector occurs, a match begins that it begins. -/
theorem exists_match_of_occurrence {text b name a : List α} (hname : IsName name)
    (h : text = b ++ (dot :: name) ++ a) :
    ∃ m ∈ matchesIn text, m.before = b ∧ dot :: name <+: m.text := by
  have hocc : textOf (segments text) = b ++ (dot :: name) ++ a := by rw [textOf_segments, h]
  obtain ⟨left, tail, right, hsegs, rfl, -⟩ := (wellCut_segments text).find_occurrence hname hocc
  have hm : ⟨textOf left, name ++ tail⟩ ∈ matchesIn text :=
    mem_matchesFrom.2 ⟨left, right, hsegs, rfl⟩
  exact ⟨_, hm, rfl, List.prefix_append (dot :: name) tail⟩

theorem IsGap.not_infix {gap name : List α} (h : IsGap gap) (hname : IsName name) :
    ¬ dot :: name <:+: gap := by
  rintro ⟨b, a, hocc⟩
  obtain ⟨m, hm, -⟩ := exists_match_of_occurrence hname hocc.symm
  exact h m (mem_matchesIn.1 hm)

/-- **Tokens.** Names are made of the letters, digits, underscores and hyphens of ASCII. The selectors of
a text are its matches from left to right: one for each dot with a name symbol right behind it, and it is
that dot with the longest run of them. With the gaps between them, where nothing matches, they make up
the text by turns, and no other list does. In any text, a match begins wherever the text of one of them
occurs, and goes on at least as far; so it occurs neither in a gap nor behind the dot of a match. -/
theorem selectors_are_longest_runs (text : List α) :
    (∀ c : Char, isNameChar c = true ↔
      ('A' ≤ c ∧ c ≤ 'Z') ∨ ('a' ≤ c ∧ c ≤ 'z') ∨ ('0' ≤ c ∧ c ≤ '9') ∨ c = '_' ∨ c = '-') ∧
    (∀ g : Glyph, isName g = true ↔ ∃ c : Char, g = .char c ∧ isNameChar c = true) ∧
    selectors text = (matchesIn text).map Match.text ∧
    ((matchesIn text).Pairwise fun m m' => m.before.length < m'.before.length) ∧
    (∀ m, m ∈ matchesIn text ↔ m.In text) ∧
    (∀ before, (∃! m, m ∈ matchesIn text ∧ m.before = before) ↔
      ∃ a rest, text = before ++ dot :: a :: rest ∧ isName a = true) ∧
    (∀ found, selectors text = found ↔ Interleaved text found) ∧
    ∀ s ∈ selectors text, ∀ other,
      (∀ b a, other = b ++ s ++ a → ∃ m ∈ matchesIn other, m.before = b ∧ s <+: m.text) ∧
      (IsGap other → ¬ s <:+: other) ∧ ∀ m ∈ matchesIn other, ¬ s <:+: m.name := by
  refine ⟨fun c => isNameChar_iff, fun g => isNameGlyph_iff, selectors_eq_map_matchesIn text,
    pairwise_matchesIn text, fun m => mem_matchesIn, fun before => existsUnique_match_iff,
    fun found => selectors_eq_iff, fun s hs other => ?_⟩
  obtain ⟨name, hname, rfl⟩ := exists_name_of_mem_selectors hs
  refine ⟨fun b a h => exists_match_of_occurrence hname h, fun h => h.not_infix hname,
    fun m hm => ?_⟩
  exact (mem_matchesIn.1 hm).isName.isGap.not_infix hname

/-- Dots in a row, a letter outside of ASCII and a dot at the end; the text of one selector begins
another one elsewhere. -/
theorem selectors_are_longest_runs_among_dots :
    let text : List Glyph := "..a-b.é.a."
    let other : List Glyph := "x.a .ab é."
    selectors text = [".a-b", ".a"] ∧
    Interleaved text [".a-b", ".a"] ∧
    (∃! m, m ∈ matchesIn text ∧ m.before = ".") ∧
    (∀ b a, other = b ++ (".a" : List Glyph) ++ a → b = "x" ∨ b = "x.a ") ∧
    ¬ (".a" : List Glyph) <:+: ("ab" : List Glyph) := by
  intro text other
  obtain ⟨-, -, -, -, -, hplaces, hcut, hoccurs⟩ := selectors_are_longest_runs text
  have hfound : selectors text = [".a-b", ".a"] := by decide +kernel
  have hmem : (".a" : List Glyph) ∈ selectors text := by decide +kernel
  have hmatches : matchesIn other = [⟨"x", "a"⟩, ⟨"x.a ", "ab"⟩] := by
    decide +kernel
  obtain ⟨hstarts, -, htails⟩ := hoccurs _ hmem other
  rw [hmatches] at hstarts htails
  refine ⟨hfound, (hcut _).1 hfound, (hplaces _).2 ⟨.char 'a', "-b.é.a.", rfl, by decide⟩, ?_,
    htails ⟨"x.a ", "ab"⟩ (by simp)⟩
  intro b a h
  obtain ⟨m, hm, rfl, -⟩ := hstarts b a h
  simp only [List.mem_cons, List.not_mem_nil, or_false] at hm
  exact hm.imp (congrArg Match.before) (congrArg Match.before)

end Restyle
