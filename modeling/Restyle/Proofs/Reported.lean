import Restyle.Proofs.Accounting
import Restyle.Proofs.Indexing

/-!
# What is reported

Renaming goes over a content line by line and changes the lines on its way, but what it reports can be
read off the content as it was. `matchesIn` finds the selectors of a whole text in their places, from
left to right, every one of them once (`mem_matchesIn`, `pairwise_matchesIn`). There is a diff for each
of them that the renames know, with its line told by the newlines before it (`diffs_are_matches`).
-/

namespace Restyle

open Script Text

/-- A selector in its place: the text before it, and its name. -/
structure Match (α : Type) where
  before : List α
  name : List α
  deriving DecidableEq, Repr

variable {α : Type} [Script α]

/-- In this place of a text stands a dot with the longest run of name symbols behind it. -/
structure Match.In (m : Match α) (text : List α) : Prop where
  isName : IsName m.name
  text_eq : ∃ after, text = m.before ++ dot :: (m.name ++ after) ∧ EndsName after

/-- The selectors among segments that stand behind a text. -/
def matchesFrom (before : List α) : List (Segment α) → List (Match α)
  | [] => []
  | .symbol c :: segs => matchesFrom (before ++ [c]) segs
  | .selector name :: segs => ⟨before, name⟩ :: matchesFrom (before ++ dot :: name) segs

theorem matchesFrom_append (before : List α) (left right : List (Segment α)) :
    matchesFrom before (left ++ right) =
      matchesFrom before left ++ matchesFrom (before ++ textOf left) right := by
  induction left generalizing before with
  | nil => simp [matchesFrom]
  | cons seg left ih =>
    cases seg with
    | symbol c =>
      rw [List.cons_append, matchesFrom, matchesFrom, ih, textOf_symbol]
      simp only [List.append_assoc, List.singleton_append]
    | selector name =>
      rw [List.cons_append, matchesFrom, matchesFrom, ih, textOf_selector]
      simp only [List.append_assoc, List.cons_append]

theorem mem_matchesFrom {before : List α} {segs : List (Segment α)} {m : Match α} :
    m ∈ matchesFrom before segs ↔ ∃ left right, segs = left ++ .selector m.name :: right ∧
      m.before = before ++ textOf left := by
  constructor
  · intro h
    induction segs generalizing before with
    | nil => cases h
    | cons seg segs ih =>
      cases seg with
      | symbol c =>
        obtain ⟨left, right, rfl, hbefore⟩ := ih h
        exact ⟨.symbol c :: left, right, rfl, by simp [hbefore]⟩
      | selector name =>
        rcases List.mem_cons.1 h with rfl | h
        · exact ⟨[], segs, rfl, by simp⟩
        · obtain ⟨left, right, rfl, hbefore⟩ := ih h
          exact ⟨.selector name :: left, right, rfl, by simp [hbefore]⟩
  · rintro ⟨left, right, rfl, hbefore⟩
    rw [matchesFrom_append, matchesFrom, ← hbefore]
    exact List.mem_append_right _ List.mem_cons_self

theorem pairwise_matchesFrom (before : List α) (segs : List (Segment α)) :
    (matchesFrom before segs).Pairwise fun m m' => m.before.length < m'.before.length := by
  induction segs generalizing before with
  | nil => exact .nil
  | cons seg segs ih =>
    cases seg with
    | symbol c => exact ih _
    | selector name =>
      refine List.Pairwise.cons (fun m hm => ?_) (ih _)
      obtain ⟨left, -, -, hbefore⟩ := mem_matchesFrom.1 hm
      rw [hbefore]
      simp only [List.length_append, List.length_cons]
      omega

variable [DecidableEq α]

/-! ## The matches of a text -/

/-- The selectors of a text in their places, from left to right. -/
def matchesIn (text : List α) : List (Match α) :=
  matchesFrom [] (segments text)

/-- Every selector is found, and nothing else is. -/
theorem mem_matchesIn {text : List α} {m : Match α} : m ∈ matchesIn text ↔ m.In text := by
  have hcut := wellCut_segments text
  rw [matchesIn, mem_matchesFrom]
  constructor
  · rintro ⟨left, right, hsegs, hbefore⟩
    rw [hsegs] at hcut
    refine ⟨hcut.isName (List.mem_append_right _ List.mem_cons_self), textOf right, ?_, ?_⟩
    · rw [← textOf_segments text, hsegs, hbefore]
      simp
    · cases hcut.right with
      | selector _ hends _ => exact hends
  · rintro ⟨hname, after, htext, hends⟩
    have hocc : textOf (segments text) = m.before ++ (dot :: m.name) ++ after := by
      rw [textOf_segments, htext]
      simp
    obtain ⟨left, tail, right, hsegs, hleft, hafter⟩ := hcut.find_occurrence hname hocc
    -- The run behind the dot is the longest, so nothing of the name is left.
    have htail : tail = [] := by
      cases tail with
      | nil => rfl
      | cons a tail =>
        rw [hsegs] at hcut
        have hyes : isName a = true := by
          apply (hcut.isName (List.mem_append_right _ List.mem_cons_self)).2
          simp
        rw [hends a (tail ++ textOf right) hafter] at hyes
        cases hyes
    subst htail
    rw [List.append_nil] at hsegs
    exact ⟨left, right, hsegs, hleft.symm⟩

/-- Each selector is found once, and those before it are found before it. -/
theorem pairwise_matchesIn (text : List α) :
    (matchesIn text).Pairwise fun m m' => m.before.length < m'.before.length :=
  pairwise_matchesFrom [] (segments text)

/-! ## Diffs -/

/-- The number of the line that a match stands on. -/
def Match.line (m : Match α) : Int :=
  1 + m.before.count newline

/-- What is reported of a match, if the index knows it. -/
def Match.diff? (file : String) (index : Index) (m : Match α) : Option Diff :=
  (index.find? (dot :: m.name)).map (Diff.ofRename file m.line)

/-- Within a line, all matches are reported under its number. -/
theorem filterMap_matchesFrom (file : String) (index : Index) (before : List α)
    {segs : List (Segment α)} (h : newline ∉ textOf segs) :
    (matchesFrom before segs).filterMap (Match.diff? file index) =
      (asked index segs).map (Diff.ofRename file (1 + before.count newline)) := by
  induction segs generalizing before with
  | nil => rfl
  | cons seg segs ih =>
    rw [textOf_cons, List.mem_append, not_or] at h
    cases seg with
    | symbol c =>
      have hc : [c].count newline = 0 := List.count_eq_zero.2 h.1
      have hasked : asked index (.symbol c :: segs) = asked index segs :=
        List.filterMap_cons_none rfl
      rw [matchesFrom, ih _ h.2, hasked, List.count_append, hc, Nat.add_zero]
    | selector name =>
      have hname : (dot :: name).count newline = 0 := List.count_eq_zero.2 h.1
      rw [matchesFrom]
      have hrest := ih (before ++ dot :: name) h.2
      rw [List.count_append, hname, Nat.add_zero] at hrest
      cases hfind : index.find? (dot :: name) with
      | none =>
        have hasked : asked index (.selector name :: segs) = asked index segs :=
          List.filterMap_cons_none hfind
        have hdiff : Match.diff? file index ⟨before, name⟩ = none := by
          rw [Match.diff?, hfind]
          rfl
        rw [List.filterMap_cons_none hdiff, hrest, hasked]
      | some r =>
        have hasked : asked index (.selector name :: segs) = r :: asked index segs :=
          List.filterMap_cons_some hfind
        have hdiff : Match.diff? file index ⟨before, name⟩ =
            some (Diff.ofRename file (1 + before.count newline) r) := by
          rw [Match.diff?, hfind]
          rfl
        rw [List.filterMap_cons_some hdiff, hrest, hasked, List.map_cons]

/-- The lines behind a text report the matches behind it. -/
theorem diffs_renameInLines (file : String) (index : Index) (before : List α)
    {lines : List (List α)} (hne : lines ≠ []) (hlines : ∀ line ∈ lines, newline ∉ line) :
    (renameInLines file index (1 + before.count newline) lines).flatMap Renamed.diffs =
      (matchesFrom before (segments (joinWith newline lines))).filterMap
        (Match.diff? file index) := by
  induction lines generalizing before with
  | nil => exact absurd rfl hne
  | cons line rest ih =>
    rw [List.forall_mem_cons] at hlines
    have hline : (matchesFrom before (segments line)).filterMap (Match.diff? file index) =
        (renameInLine file (1 + before.count newline) index line).diffs := by
      rw [filterMap_matchesFrom file index before (by rw [textOf_segments]; exact hlines.1),
        renameInLine_eq]
    rw [renameInLines, List.flatMap_cons]
    by_cases hrest : rest = []
    · subst hrest
      rw [renameInLines, List.flatMap_nil, List.append_nil]
      exact hline.symm
    · -- The next line has one more newline before it.
      have hcount : (1 + before.count newline + 1 : Int) =
          1 + ((before ++ line ++ [newline]).count newline : Nat) := by
        have hzero : line.count newline = 0 := List.count_eq_zero.2 hlines.1
        rw [List.count_append, List.count_append, hzero, List.count_singleton_self]
        omega
      rw [joinWith_cons newline line hrest, segments_append dot_ne_newline.symm isName_newline,
        matchesFrom_append, textOf_segments, List.filterMap_append, hline, matchesFrom, hcount,
        ih _ hrest hlines.2]

theorem diffs_renameInContent (file : String) (index : Index) (content : List α) :
    (renameInContent file index content).diffs =
      (matchesIn content).filterMap (Match.diff? file index) := by
  have hlines : ∀ line ∈ splitOn newline content, newline ∉ line :=
    fun line hline hmem => (mem_of_mem_splitOn hline _ hmem).2 rfl
  have hall := diffs_renameInLines file index [] (splitOn_ne_nil newline content) hlines
  rwa [joinWith_splitOn] at hall

/-! ## Lines of matches -/

/-- Matches that stand further on stand on no earlier line. -/
theorem Match.In.line_le {m m' : Match α} {text : List α} (h : m.In text) (h' : m'.In text)
    (hlt : m.before.length < m'.before.length) : m.line ≤ m'.line := by
  obtain ⟨after, htext, -⟩ := h.text_eq
  obtain ⟨after', htext', -⟩ := h'.text_eq
  have hpre : m.before <+: m'.before :=
    List.prefix_of_prefix_length_le ⟨_, htext.symm⟩ ⟨_, htext'.symm⟩ (Nat.le_of_lt hlt)
  have hcount := hpre.sublist.count_le newline
  rw [Match.line, Match.line]
  omega

theorem Match.In.line_bounds {m : Match α} {text : List α} (h : m.In text) :
    1 ≤ m.line ∧ m.line ≤ (splitOn newline text).length := by
  obtain ⟨after, htext, -⟩ := h.text_eq
  have hcount : m.before.count newline ≤ text.count newline := by
    rw [htext, List.count_append]
    omega
  rw [Match.line, length_splitOn]
  omega

/-- **Diffs.** Whatever the replacements do to the text, the diffs are read off the content as it was:
there is one for each of its selectors that is renamed, in order, with the line that the selector
stands on and with the last rename of its name. -/
theorem diffs_are_matches (file : String) (renames : List Rename) (content : List α) :
    let diffs := (renameInContent file (Index.ofList renames) content).diffs
    (∀ m, m ∈ matchesIn content ↔ m.In content) ∧
    ((matchesIn content).Pairwise fun m m' => m.before.length < m'.before.length) ∧
    diffs = (matchesIn content).filterMap (fun m =>
      (renames.reverse.find? fun r => write r.old = m.name).map fun r =>
        { file := file, line := 1 + m.before.count newline, old := r.old, new := r.new }) ∧
    (diffs.map Diff.line).Pairwise (· ≤ ·) ∧
    ∀ d ∈ diffs, 1 ≤ d.line ∧ d.line ≤ (splitOn newline content).length := by
  intro diffs
  have hdiffs : diffs = (matchesIn content).filterMap (Match.diff? file (Index.ofList renames)) :=
    diffs_renameInContent file (Index.ofList renames) content
  have hline {m : Match α} {d : Diff} (h : m.diff? file (Index.ofList renames) = some d) :
      d.line = m.line := by
    obtain ⟨r, -, rfl⟩ := Option.map_eq_some_iff.1 h
    rfl
  refine ⟨fun m => mem_matchesIn, pairwise_matchesIn content, ?_, ?_, ?_⟩
  · rw [hdiffs]
    refine List.filterMap_congr fun m hm => ?_
    have hname := (mem_matchesIn.1 hm).isName.isUnambiguous
    rw [Match.diff?, Index.find?_ofList renames hname]
    rfl
  · rw [hdiffs, List.pairwise_map]
    refine ((pairwise_matchesIn content).imp_of_mem fun {m m'} hm hm' hlt =>
      (mem_matchesIn.1 hm).line_le (mem_matchesIn.1 hm') hlt).filterMap _ ?_
    intro m m' hle d hd d' hd'
    rw [hline hd, hline hd']
    exact hle
  · intro d hd
    rw [hdiffs] at hd
    obtain ⟨m, hm, hmd⟩ := List.mem_filterMap.1 hd
    rw [hline hmd]
    exact (mem_matchesIn.1 hm).line_bounds

end Restyle
