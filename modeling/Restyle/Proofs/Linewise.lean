import Restyle.Proofs.ChangeLists
import Restyle.Proofs.Octets
import Restyle.Proofs.Trimming

/-!
# Line by line

An entry of a change list is part of a line, so no newline gets into a line by renaming in it
(`newline_not_mem_renameInLine`), and the lines of a renamed content are the renamed lines of the
content (`splitOn_renameInContent`). What is reported of a content is put together from its parts:
behind a newline only the numbers of the lines differ (`renameInContent_append`).
-/

namespace Restyle

open Script Text

/-! ## Newlines in names -/

/-- A script that writes the newline for no other glyph. -/
class Script.HasLines (α : Type) [Script α] : Prop where
  eq_of_newline_mem : ∀ g, (newline : α) ∈ spell g → g = .char '\n'

instance : HasLines Glyph where
  eq_of_newline_mem _ h := (List.mem_singleton.1 h).symm

instance : HasLines UInt8 where
  eq_of_newline_mem _ h := Glyph.eq_newline_of_mem h

/-- An entry of a change list lies within a line. -/
theorem ChangeList.newline_not_mem_entry {text name : List Glyph} (h : name ∈ entries text) :
    Glyph.char '\n' ∉ name := by
  obtain ⟨line, hline, rfl⟩ := List.mem_map.1 (List.mem_filter.1 h).1
  intro hmem
  exact (mem_of_mem_splitOn hline _ (mem_of_mem_trimBy hmem)).2 rfl

section Newlines

variable {α : Type} [Script α]

theorem newline_not_mem_write [HasLines α] {text : List Glyph} (h : Glyph.char '\n' ∉ text) :
    newline ∉ (write text : List α) := by
  intro hmem
  obtain ⟨g, hg, hnewline⟩ := List.mem_flatMap.1 hmem
  obtain rfl := HasLines.eq_of_newline_mem g hnewline
  exact h hg

/-- An index whose renames all stay on their line. -/
def Index.KeepsLines (α : Type) [Script α] (index : Index) : Prop :=
  ∀ r ∈ index.renames, newline ∉ (write r.newSelector : List α)

theorem keepsLines_of_changeList [HasLines α] (text : List Glyph) :
    (Index.ofList (ChangeList.renames text)).KeepsLines α := by
  intro r hr
  have hnew := ChangeList.newline_not_mem_entry (ChangeList.mem_entries_of_mem_index hr).2
  rw [r.write_newSelector, List.mem_cons, not_or]
  exact ⟨dot_ne_newline.symm, newline_not_mem_write hnew⟩

/-! ## Lines stay lines -/

theorem Replaced.newline_not_mem {r : Rename} {before rest line line' : List α}
    (h : Replaced r before rest line line') (hnew : newline ∉ (write r.newSelector : List α))
    (hline : newline ∉ line) : newline ∉ line' := by
  obtain ⟨b, a, hocc, -, rfl⟩ := h.replaced
  rw [hocc.text_eq] at hline
  simp only [List.mem_append, not_or] at hline ⊢
  obtain ⟨⟨hb, -⟩, ha, hrest⟩ := hline
  exact ⟨⟨hb, hnew⟩, ha, hrest⟩

theorem Replacements.newline_not_mem {rs : List Rename} {line line' : List α}
    (h : Replacements rs line line')
    (hnew : ∀ r ∈ rs, newline ∉ (write r.newSelector : List α)) (hline : newline ∉ line) :
    newline ∉ line' := by
  induction h with
  | nil => exact hline
  | cons hstep _ ih =>
    rw [List.forall_mem_cons] at hnew
    apply ih hnew.2
    exact hstep.newline_not_mem hnew.1 hline

end Newlines

variable {α : Type} [DecidableEq α] [Script α]

theorem newline_not_mem_renameInLine {index : Index} (hindex : index.KeepsLines α) (file : String)
    (number : Int) {line : List α} (hline : newline ∉ line) :
    newline ∉ (renameInLine file number index line).text := by
  apply (replacements_renameInLine file number index line).newline_not_mem _ hline
  exact fun r hr => hindex r (mem_of_mem_asked hr)

theorem map_text_ne_nil (file : String) (index : Index) (number : Int) (content : List α) :
    (renameInLines file index number (splitOn newline content)).map Renamed.text ≠ [] := by
  rw [map_text_renameInLines, ne_eq, List.map_eq_nil_iff]
  exact splitOn_ne_nil newline content

/-- The lines of a renamed content are its lines, each of them renamed. -/
theorem splitOn_renameInContent {index : Index} (hindex : index.KeepsLines α) (file : String)
    (content : List α) : splitOn newline (renameInContent file index content).text =
      (renameInLines file index 1 (splitOn newline content)).map Renamed.text := by
  apply splitOn_joinWith (map_text_ne_nil file index 1 content)
  rw [map_text_renameInLines]
  intro piece hpiece
  obtain ⟨line, hline, rfl⟩ := List.mem_map.1 hpiece
  have hmem : newline ∉ line := fun h => (mem_of_mem_splitOn hline _ h).2 rfl
  have hdone := newline_not_mem_renameInLine hindex file 1 hmem
  rwa [renameInLine_eq] at hdone

/-! ## Numbers of lines -/

theorem getElem?_renameInLines (file : String) (index : Index) (number : Int)
    (lines : List (List α)) (j : Nat) : (renameInLines file index number lines)[j]? =
      lines[j]?.map (renameInLine file (number + j) index) := by
  induction lines generalizing number j with
  | nil => rfl
  | cons line rest ih =>
    cases j with
    | zero =>
      rw [renameInLines, List.getElem?_cons_zero, List.getElem?_cons_zero, Nat.cast_zero,
        Int.add_zero]
      rfl
    | succ j =>
      rw [renameInLines, List.getElem?_cons_succ, List.getElem?_cons_succ, ih, Nat.cast_succ,
        Int.add_assoc, Int.add_comm 1]

theorem renameInLines_append (file : String) (index : Index) (number : Int)
    (front back : List (List α)) : renameInLines file index number (front ++ back) =
      renameInLines file index number front ++
        renameInLines file index (number + front.length) back := by
  induction front generalizing number with
  | nil => rw [List.nil_append, renameInLines, List.nil_append, List.length_nil, Nat.cast_zero,
      Int.add_zero]
  | cons line front ih =>
    rw [List.cons_append, renameInLines, renameInLines, ih, List.cons_append, List.length_cons,
      Nat.cast_succ, Int.add_assoc, Int.add_comm 1]

/-- A diff as it is reported with some more lines before it. -/
def Diff.after (lines : Nat) (d : Diff) : Diff :=
  { d with line := d.line + lines }

/-- With some more lines before them, the same is reported further on. -/
theorem diffs_renameInLines_add (file : String) (index : Index) (number : Int) (more : Nat)
    (lines : List (List α)) :
    (renameInLines file index (number + more) lines).flatMap Renamed.diffs =
      ((renameInLines file index number lines).flatMap Renamed.diffs).map (Diff.after more) := by
  induction lines generalizing number with
  | nil => rfl
  | cons line rest ih =>
    have hline : (renameInLine file (number + more) index line).diffs =
        (renameInLine file number index line).diffs.map (Diff.after more) := by
      rw [renameInLine, renameInLine, List.map_map]
      rfl
    have hnumber : number + more + 1 = number + 1 + (more : Int) := by omega
    rw [renameInLines, renameInLines, List.flatMap_cons, List.flatMap_cons, List.map_append, hline,
      hnumber, ih]

/-- A line with a number that no diff has is as it was. -/
theorem getElem?_renameInLines_of_no_diffs {file : String} {index : Index} {number : Int}
    {lines : List (List α)} {j : Nat}
    (h : ∀ d ∈ (renameInLines file index number lines).flatMap Renamed.diffs,
      d.line ≠ number + j) :
    ((renameInLines file index number lines).map Renamed.text)[j]? = lines[j]? := by
  rw [List.getElem?_map, getElem?_renameInLines]
  cases hj : lines[j]? with
  | none => rfl
  | some line =>
    have hdone := getElem?_renameInLines file index number lines j
    rw [hj] at hdone
    have hnone : (renameInLine file (number + j) index line).diffs = [] := by
      -- A diff of this line would have its number.
      rw [List.eq_nil_iff_forall_not_mem]
      intro d hd
      have hmem := List.mem_flatMap.2 ⟨_, List.mem_of_getElem? hdone, hd⟩
      obtain ⟨r, -, rfl⟩ := List.mem_map.1 hd
      exact h _ hmem rfl
    exact congrArg some (text_renameInLine_of_no_diffs hnone)

/-! ## Contents -/

/-- Two contents with a newline between them are renamed in each alone. -/
theorem renameInContent_append (file : String) (index : Index) (front back : List α) :
    let first := renameInContent file index front
    let second := renameInContent file index back
    renameInContent file index (front ++ newline :: back) =
      ⟨first.text ++ newline :: second.text,
        first.diffs ++ second.diffs.map (Diff.after (splitOn newline front).length)⟩ := by
  intro first second
  -- What becomes of a line does not depend on its number.
  have htext (number : Int) :
      (renameInLines file index number (splitOn newline back)).map Renamed.text =
        (renameInLines file index 1 (splitOn newline back)).map Renamed.text := by
    rw [map_text_renameInLines, map_text_renameInLines]
  rw [renameInContent, splitOn_append_sep, renameInLines_append, List.map_append,
    List.flatMap_append, diffs_renameInLines_add, htext,
    joinWith_append newline (map_text_ne_nil file index 1 front)
      (map_text_ne_nil file index 1 back)]
  rfl

/-- **Lines.** Under the index of a change list a content keeps its lines: each of them becomes what it
would become alone, and it stays as it is unless a diff has its number. So a newline parts a content
into two that are renamed in one without the other. -/
theorem lines_are_renamed_alone [HasLines α] (file : String) (text : List Glyph) :
    let index := Index.ofList (ChangeList.renames text)
    (∀ (s : Session) (url : String) (followRedirects : Bool),
      s.web.changeList followRedirects url = .ok text →
        ((Action.fetchIndex url followRedirects).outcome s).1 = .ok index) ∧
    (∀ content : List α,
      let done := renameInContent file index content
      (splitOn newline done.text).length = (splitOn newline content).length ∧
      (∀ j : Nat, (splitOn newline done.text)[j]? = (splitOn newline content)[j]?.map fun line =>
        (renameInLine file (1 + j) index line).text) ∧
      ∀ j : Nat, (∀ d ∈ done.diffs, d.line ≠ 1 + j) →
        (splitOn newline done.text)[j]? = (splitOn newline content)[j]?) ∧
    ∀ front back : List α,
      let first := renameInContent file index front
      let second := renameInContent file index back
      renameInContent file index (front ++ newline :: back) =
        ⟨first.text ++ newline :: second.text, first.diffs ++ second.diffs.map fun d =>
          { d with line := d.line + (splitOn newline front).length }⟩ := by
  intro index
  have hindex : index.KeepsLines α := keepsLines_of_changeList text
  refine ⟨fun s url followRedirects htext => Action.fetchIndex_of_changeList htext, ?_,
    renameInContent_append file index⟩
  intro content done
  have hlines : splitOn newline done.text =
      (renameInLines file index 1 (splitOn newline content)).map Renamed.text :=
    splitOn_renameInContent hindex file content
  refine ⟨?_, fun j => ?_, fun j hnone => ?_⟩
  · rw [hlines, map_text_renameInLines, List.length_map]
  · rw [hlines, List.getElem?_map, getElem?_renameInLines, Option.map_map]
    rfl
  · rw [hlines]
    exact getElem?_renameInLines_of_no_diffs hnone

/-- Two parts of a file, with selectors on their last lines. -/
theorem lines_are_renamed_alone_in_parts :
    let index := Index.ofList (ChangeList.renames "a_b\nc-d\n")
    let front : List Glyph := "\n.a_b"
    let back : List Glyph := ".x\n.a_b"
    let done := renameInContent "a.css" index (front ++ newline :: back)
    done.text = "\n.c-d\n.x\n.c-d" ∧
      done.diffs = [⟨"a.css", 2, "a_b", "c-d"⟩, ⟨"a.css", 4, "a_b", "c-d"⟩] ∧
      (splitOn newline done.text)[2]? = some (Glyph.ofString ".x") := by
  intro index front back done
  obtain ⟨-, hlines, hjoin⟩ := lines_are_renamed_alone (α := Glyph) "a.css" "a_b\nc-d\n"
  obtain ⟨-, -, hsame⟩ := hlines (front ++ newline :: back)
  have hdone : done = _ := hjoin front back
  have hthird : (splitOn newline done.text)[2]? =
      (splitOn newline (front ++ newline :: back))[2]? := hsame 2 (by decide +kernel)
  refine ⟨?_, ?_, ?_⟩
  · rw [hdone]
    decide +kernel
  · rw [hdone]
    decide +kernel
  · rw [hthird]
    decide +kernel

end Restyle
