import Restyle.Proofs.Reported

/-!
# Renames in another order

Renaming looks up the selectors that a content holds at first, and nothing that comes about on the way.
So it depends on the index only through what is found for these selectors
(`renameInContent_congr`), and of a list of renames only the last one of each such name counts
(`renaming_by_last_renames`), however the renames build upon each other.
-/

namespace Restyle

open Script Text

section Selectors

variable {α : Type} [Script α]

/-! ## Selectors of lines -/

/-- A selector stays one if the text goes on behind it as no name does. -/
theorem Match.In.append {m : Match α} {text rest : List α} (h : m.In text) (hrest : EndsName rest) :
    m.In (text ++ rest) := by
  obtain ⟨after, rfl, hends⟩ := h.text_eq
  refine ⟨h.isName, after ++ rest, by simp, ?_⟩
  cases after with
  | nil => exact hrest
  | cons a after => exact endsName_cons (hends a after rfl)

/-- A selector stays one behind any other text. -/
theorem Match.In.prepend {m : Match α} {text : List α} (h : m.In text) (front : List α) :
    (Match.mk (front ++ m.before) m.name).In (front ++ text) := by
  obtain ⟨after, rfl, hends⟩ := h.text_eq
  exact ⟨h.isName, after, by simp, hends⟩

variable [DecidableEq α]

theorem exists_match_of_mem_selectors {text selector : List α} (h : selector ∈ selectors text) :
    ∃ m : Match α, m.In text ∧ selector = dot :: m.name := by
  rw [selectors_eq] at h
  obtain ⟨seg, hseg, hselector⟩ := List.mem_filterMap.1 h
  cases seg with
  | symbol c => cases hselector
  | selector name =>
    obtain ⟨left, right, hsegs⟩ := List.append_of_mem hseg
    refine ⟨⟨textOf left, name⟩, mem_matchesIn.1 ?_, (Option.some.inj hselector).symm⟩
    exact mem_matchesFrom.2 ⟨left, right, hsegs, (List.nil_append _).symm⟩

/-- The selectors of the lines of a content are selectors of the content. -/
theorem exists_match_of_mem_line {line selector : List α} {lines : List (List α)}
    (hline : line ∈ lines) (h : selector ∈ selectors line) :
    ∃ m : Match α, m.In (joinWith newline lines) ∧ selector = dot :: m.name := by
  induction lines with
  | nil => cases hline
  | cons first rest ih =>
    by_cases hnil : rest = []
    · subst hnil
      obtain rfl := List.mem_singleton.1 hline
      exact exists_match_of_mem_selectors h
    rw [joinWith_cons newline first hnil]
    rcases List.mem_cons.1 hline with rfl | hline
    · obtain ⟨m, hm, hselector⟩ := exists_match_of_mem_selectors h
      exact ⟨m, hm.append (endsName_cons isName_newline), hselector⟩
    · obtain ⟨m, hm, hselector⟩ := ih hline
      rw [List.append_cons first]
      exact ⟨_, hm.prepend (first ++ [newline]), hselector⟩

/-! ## What renaming looks up -/

variable {index other : Index}

theorem renameInLine_congr (file : String) (number : Int) {line : List α}
    (h : ∀ selector ∈ selectors line, index.find? selector = other.find? selector) :
    renameInLine file number index line = renameInLine file number other line := by
  have hrenames : renamesOn index line = renamesOn other line := List.filterMap_congr h
  rw [renameInLine, renameInLine, hrenames]

theorem renameInLines_congr (file : String) (number : Int) {lines : List (List α)}
    (h : ∀ line ∈ lines, ∀ selector ∈ selectors line,
      index.find? selector = other.find? selector) :
    renameInLines file index number lines = renameInLines file other number lines := by
  induction lines generalizing number with
  | nil => rfl
  | cons line rest ih =>
    rw [List.forall_mem_cons] at h
    rw [renameInLines, renameInLines, renameInLine_congr file number h.1, ih (number + 1) h.2]

/-- Indexes where the same is found for the selectors of a content rename in it alike. -/
theorem renameInContent_congr (file : String) {content : List α}
    (h : ∀ m : Match α, m.In content → index.find? (dot :: m.name) = other.find? (dot :: m.name)) :
    renameInContent file index content = renameInContent file other content := by
  have hlines : renameInLines file index 1 (splitOn newline content) =
      renameInLines file other 1 (splitOn newline content) := by
    refine renameInLines_congr file 1 fun line hline selector hselector => ?_
    obtain ⟨m, hm, rfl⟩ := exists_match_of_mem_line hline hselector
    rw [joinWith_splitOn] at hm
    exact h m hm
  rw [renameInContent, renameInContent, hlines]

end Selectors

variable {α : Type} [DecidableEq α] [Script α]

/-! ## The last rename of a name -/

/-- The last of some renames that has a name, if any of them has it. -/
def lastFor? (renames : List Rename) (name : List α) : Option Rename :=
  (renames.filter fun r => write r.old = name).getLast?

/-- What is found in an index is the last rename of the name. -/
theorem Index.find?_eq_lastFor? (renames : List Rename) {name : List α} (h : IsUnambiguous name) :
    (ofList renames).find? (dot :: name) = lastFor? renames name := by
  rw [find?_ofList renames h, ← List.head?_filter, List.filter_reverse, List.head?_reverse, lastFor?]

/-- Renames that have each name in the same order among them have the same last one. -/
theorem lastFor?_of_same_turns {renames others : List Rename}
    (h : ∀ old, renames.filter (fun r => r.old = old) = others.filter fun r => r.old = old)
    {name : List α} (hname : IsUnambiguous name) :
    lastFor? renames name = lastFor? others name := by
  rw [lastFor?, lastFor?]
  by_cases hexists : ∃ old, write old = name
  · obtain ⟨old, rfl⟩ := hexists
    have hold (r : Rename) : (write r.old = (write old : List α)) = (r.old = old) :=
      propext ⟨fun e => hname _ _ e rfl, congrArg write⟩
    simp only [hold, h old]
  · -- A name that is not the writing of any text is none of theirs.
    have hnone (rs : List Rename) : rs.filter (fun r => write r.old = name) = [] := by
      rw [List.filter_eq_nil_iff]
      intro r _ hr
      exact hexists ⟨r.old, of_decide_eq_true hr⟩
    rw [hnone, hnone]

/-- Renames of other names do not count. -/
theorem lastFor?_filter {renames : List Rename} {p : Rename → Bool} {name : List α}
    (h : ∀ r ∈ renames, p r = false → write r.old ≠ name) :
    lastFor? (renames.filter p) name = lastFor? renames name := by
  rw [lastFor?, lastFor?, List.filter_filter]
  congr 1
  refine List.filter_congr fun r hr => ?_
  cases hp : p r with
  | true => rw [Bool.and_true]
  | false => rw [Bool.and_false, decide_eq_false (h r hr hp)]

/-- **Renames in another order.** Two lists of renames do the same to a content, with the same diffs,
if for every selector in it either none of either list has its name or the last one that has it is the
same in both. So it makes no difference in which order the renames of different names stand, as long as
those of one name keep theirs, nor which renames there are for names that are not in the content. -/
theorem renaming_by_last_renames (file : String) (content : List α) :
    (∀ renames others : List Rename,
      (∀ m : Match α, m.In content → lastFor? renames m.name = lastFor? others m.name) →
        renameInContent file (Index.ofList renames) content =
          renameInContent file (Index.ofList others) content) ∧
    (∀ renames others : List Rename,
      (∀ old, renames.filter (fun r => r.old = old) = others.filter fun r => r.old = old) →
        renameInContent file (Index.ofList renames) content =
          renameInContent file (Index.ofList others) content) ∧
    ∀ (renames : List Rename) (kept : Rename → Bool),
      (∀ r ∈ renames, kept r = false → ∀ m : Match α, m.In content → write r.old ≠ m.name) →
        renameInContent file (Index.ofList (renames.filter kept)) content =
          renameInContent file (Index.ofList renames) content := by
  have hlast (renames others : List Rename)
      (h : ∀ m : Match α, m.In content → lastFor? renames m.name = lastFor? others m.name) :
      renameInContent file (Index.ofList renames) content =
        renameInContent file (Index.ofList others) content := by
    refine renameInContent_congr file fun m hm => ?_
    have hname := hm.isName.isUnambiguous
    rw [Index.find?_eq_lastFor? renames hname, Index.find?_eq_lastFor? others hname, h m hm]
  refine ⟨hlast, fun renames others h => ?_, fun renames kept h => ?_⟩
  · exact hlast renames others fun m hm => lastFor?_of_same_turns h hm.isName.isUnambiguous
  · exact hlast _ _ fun m hm => lastFor?_filter fun r hr hkept => h r hr hkept m hm

/-- Two renames that undo each other, in three orders and with others of their names and of a name that
is not there. -/
theorem renaming_by_last_renames_cyclic :
    let content := Glyph.ofString ".a_b .b_c\n.a_b-x .a_b"
    let renames : List Rename := [⟨"a_b", "q"⟩, ⟨"b_c", "a_b"⟩, ⟨"a_b", "b_c"⟩]
    let last : List Rename := [⟨"a_b", "b_c"⟩, ⟨"x", "a_b"⟩, ⟨"b_c", "a_b"⟩]
    let turned : List Rename := [⟨"b_c", "a_b"⟩, ⟨"a_b", "q"⟩, ⟨"a_b", "b_c"⟩]
    let kept (r : Rename) : Bool := r.old != "x"
    let renamed (renames : List Rename) := renameInContent "a.css" (Index.ofList renames) content
    (∀ m : Match Glyph, m.In content → lastFor? renames m.name = lastFor? last m.name) ∧
    renamed renames = renamed last ∧
    (∀ old, renames.filter (fun r => r.old = old) = turned.filter fun r => r.old = old) ∧
    renamed renames = renamed turned ∧
    (∀ r ∈ last, kept r = false → ∀ m : Match Glyph, m.In content → write r.old ≠ m.name) ∧
    renamed (last.filter kept) = renamed last ∧
    (renamed renames).text = ".a_b .b_c\n.b_c-x .a_b" := by
  intro content renames last turned kept renamed
  obtain ⟨hlast, hturned, hkept⟩ := renaming_by_last_renames "a.css" content
  have hsame : ∀ m : Match Glyph, m.In content → lastFor? renames m.name = lastFor? last m.name := by
    simp only [← mem_matchesIn]
    decide +kernel
  have hturns : ∀ old, renames.filter (fun r => r.old = old) =
      turned.filter fun r => r.old = old := by
    intro old
    by_cases hfirst : Glyph.ofString "a_b" = old
    · subst hfirst
      decide +kernel
    · simp [renames, turned, List.filter, hfirst]
  have hother : ∀ r ∈ last, kept r = false → ∀ m : Match Glyph, m.In content →
      write r.old ≠ m.name := by
    simp only [← mem_matchesIn]
    decide +kernel
  exact ⟨hsame, hlast renames last hsame, hturns, hturned renames turned hturns, hother,
    hkept last kept hother, by decide +kernel⟩

end Restyle
