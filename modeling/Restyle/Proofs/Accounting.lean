import Mathlib.Algebra.Ring.Int.Defs
import Restyle.Proofs.Lines
import Restyle.Proofs.Segments
import Restyle.Renamed

/-!
# Accounting for diffs

Renaming goes through the selectors of the line as it was at first, but each replacement hits the
line as it is by then. What keeps the two together is that the text from the next selector on is
still there, whatever the replacements before it have done (`deal_segments`). So every selector
that the index knows is replaced somewhere, no replacement reaches behind it, and each diff accounts
for the growth of one name.
-/

namespace Restyle

open Script Text

variable {α : Type} [DecidableEq α] [Script α]

/-! ## Renames that are asked for -/

/-- The rename that a segment asks for. -/
def Segment.rename? (index : Index) : Segment α → Option Rename
  | .symbol _ => none
  | .selector name => index.find? (dot :: name)

/-- The renames that segments ask for, in order. -/
def asked (index : Index) (segs : List (Segment α)) : List Rename :=
  segs.filterMap (Segment.rename? index)

/-- A line by the time that some segments at its beginning have been dealt with. -/
def lineAfter (index : Index) (line : List α) (segs : List (Segment α)) : List α :=
  (asked index segs).foldl applyRename line

theorem asked_append (index : Index) (left right : List (Segment α)) :
    asked index (left ++ right) = asked index left ++ asked index right :=
  List.filterMap_append

theorem renamesOn_eq (index : Index) (line : List α) :
    renamesOn index line = asked index (segments line) := by
  rw [renamesOn, selectors_eq, List.filterMap_filterMap, asked]
  congr 1
  funext seg
  cases seg <;> rfl

/-- A rename is found under its old selector. -/
theorem Index.write_of_find? {index : Index} {selector : List α} {r : Rename}
    (h : index.find? selector = some r) : write r.oldSelector = selector := by
  simpa using List.find?_some h

theorem Segment.text_of_rename? {index : Index} (seg : Segment α) {r : Rename}
    (h : seg.rename? index = some r) : seg.text = write r.oldSelector := by
  cases seg with
  | symbol c => cases h
  | selector name => exact (Index.write_of_find? h).symm

theorem Segment.mem_of_rename? {index : Index} (seg : Segment α) {r : Rename}
    (h : seg.rename? index = some r) : r ∈ index.renames := by
  cases seg with
  | symbol c => cases h
  | selector name => exact List.mem_of_find?_eq_some h

theorem mem_of_mem_asked {index : Index} {segs : List (Segment α)} {r : Rename}
    (h : r ∈ asked index segs) : r ∈ index.renames := by
  obtain ⟨seg, -, hseg⟩ := List.mem_filterMap.1 h
  exact seg.mem_of_rename? hseg

/-! ## Growth -/

/-- How many symbols a rename adds to the text each time it is made. -/
def Rename.growth (α : Type) [Script α] (r : Rename) : Int :=
  width α r.new - width α r.old

/-- How many symbols diffs add to the text. -/
def growth (α : Type) [Script α] (diffs : List Diff) : Int :=
  (diffs.map fun d => (width α d.new - width α d.old : Int)).sum

omit [DecidableEq α] in
theorem growth_append (ds es : List Diff) : growth α (ds ++ es) = growth α ds + growth α es := by
  rw [growth, List.map_append, List.sum_append]
  rfl

omit [DecidableEq α] in
theorem growth_ofRename (file : String) (number : Int) (renames : List Rename) :
    growth α (renames.map (Diff.ofRename file number)) = (renames.map (Rename.growth α)).sum := by
  rw [growth, List.map_map]
  rfl

/-! ## One replacement -/

/-- A line that consists of `before`, the old selector and `rest` has its first occurrence of the
old selector replaced. That one starts at or before the end of `before`, and `rest` stays. -/
structure Replaced (r : Rename) (before rest line line' : List α) : Prop where
  line_eq : line = before ++ write r.oldSelector ++ rest
  replaced : ∃ b a, FirstOccurrence (write r.oldSelector) b (a ++ rest) line ∧
    b.length ≤ before.length ∧ line' = b ++ write r.newSelector ++ (a ++ rest)

theorem replaced_applyRename (r : Rename) (before rest : List α) :
    Replaced r before rest (before ++ write r.oldSelector ++ rest)
      (applyRename (before ++ write r.oldSelector ++ rest) r) := by
  obtain ⟨b, after, hocc, hle⟩ :=
    exists_firstOccurrence (rfl : before ++ write r.oldSelector ++ rest = before ++ _ ++ rest)
  have hin : (b ++ write r.oldSelector).length ≤ (before ++ write r.oldSelector).length := by
    rw [List.length_append, List.length_append]
    omega
  obtain ⟨a, -, rfl⟩ := exists_between hocc.text_eq hin
  exact ⟨rfl, b, a, hocc, hle, replaceFirst_eq r.write_oldSelector_ne_nil hocc⟩

omit [DecidableEq α] in
theorem Replaced.length_eq {r : Rename} {before rest line line' : List α}
    (h : Replaced r before rest line line') :
    (line'.length : Int) = line.length + r.growth α := by
  obtain ⟨b, a, hocc, -, rfl⟩ := h.replaced
  rw [hocc.text_eq, r.write_oldSelector, r.write_newSelector]
  simp only [List.length_append, List.length_cons, Rename.growth, width]
  omega

/-- The replacements of renames, one after the other. -/
inductive Replacements : List Rename → List α → List α → Prop
  | nil (line : List α) : Replacements [] line line
  | cons {r : Rename} {rs : List Rename} {before rest line line' line'' : List α} :
      Replaced r before rest line line' → Replacements rs line' line'' →
      Replacements (r :: rs) line line''

omit [DecidableEq α] in
theorem Replacements.append {rs rs' : List Rename} {line line' line'' : List α}
    (h : Replacements rs line line') (h' : Replacements rs' line' line'') :
    Replacements (rs ++ rs') line line'' := by
  induction h with
  | nil => exact h'
  | cons hstep _ ih => exact .cons hstep (ih h')

omit [DecidableEq α] in
theorem Replacements.length_eq {rs : List Rename} {line line' : List α}
    (h : Replacements rs line line') :
    (line'.length : Int) = line.length + (rs.map (Rename.growth α)).sum := by
  induction h with
  | nil => simp
  | cons hstep _ ih =>
    have := hstep.length_eq
    rw [ih, List.map_cons, List.sum_cons]
    omega

/-! ## A whole line -/

theorem lineAfter_append (index : Index) (line : List α) (left right : List (Segment α)) :
    lineAfter index line (left ++ right) = lineAfter index (lineAfter index line left) right := by
  rw [lineAfter, asked_append, List.foldl_append]
  rfl

theorem lineAfter_snoc {index : Index} {seg : Segment α} {r : Rename}
    (h : seg.rename? index = some r) (line : List α) (left : List (Segment α)) :
    lineAfter index line (left ++ [seg]) = applyRename (lineAfter index line left) r := by
  have hasked : asked index [seg] = [r] := List.filterMap_cons_some h
  rw [lineAfter, asked_append, hasked, List.foldl_append]
  rfl

/-- Dealing with one segment makes the replacement that it asks for and changes nothing behind it. -/
theorem deal_segment (index : Index) (seg : Segment α) (before rest : List α) :
    ∃ done, lineAfter index (before ++ seg.text ++ rest) [seg] = done ++ rest ∧
      Replacements (asked index [seg]) (before ++ seg.text ++ rest) (done ++ rest) := by
  cases hr : seg.rename? index with
  | none =>
    have hasked : asked index [seg] = [] := List.filterMap_cons_none hr
    rw [lineAfter, hasked]
    exact ⟨before ++ seg.text, rfl, .nil _⟩
  | some r =>
    have hasked : asked index [seg] = [r] := List.filterMap_cons_some hr
    have hstep := replaced_applyRename r before rest
    obtain ⟨b, a, -, -, hline⟩ := hstep.replaced
    have hdone : b ++ write r.newSelector ++ (a ++ rest) = b ++ write r.newSelector ++ a ++ rest :=
      (List.append_assoc _ a rest).symm
    rw [lineAfter, hasked, seg.text_of_rename? hr]
    refine ⟨b ++ write r.newSelector ++ a, hline.trans hdone, ?_⟩
    rw [← hdone, ← hline]
    exact .cons hstep (.nil _)

/-- What stands behind the segments that have been dealt with is still there, whatever the
replacements before it have done. -/
theorem deal_segments (index : Index) (segs : List (Segment α)) (before rest : List α) :
    ∃ done, lineAfter index (before ++ textOf segs ++ rest) segs = done ++ rest ∧
      Replacements (asked index segs) (before ++ textOf segs ++ rest) (done ++ rest) := by
  induction segs generalizing before with
  | nil =>
    rw [textOf_nil, List.append_nil]
    exact ⟨before, rfl, .nil _⟩
  | cons seg segs ih =>
    -- The first segment leaves `between`, with all other segments still behind it.
    obtain ⟨between, hbetween, hfirst⟩ := deal_segment index seg before (textOf segs ++ rest)
    obtain ⟨done, hdone, hrest⟩ := ih between
    have hline : before ++ textOf (seg :: segs) ++ rest =
        before ++ seg.text ++ (textOf segs ++ rest) := by
      rw [textOf_cons]
      simp only [List.append_assoc]
    rw [← List.append_assoc between] at hbetween hfirst
    refine ⟨done, ?_, ?_⟩
    · rw [hline, ← hdone, ← hbetween]
      exact lineAfter_append index _ [seg] segs
    · rw [hline, show seg :: segs = [seg] ++ segs from rfl, asked_append]
      exact hfirst.append hrest

theorem renameInLine_eq (file : String) (number : Int) (index : Index) (line : List α) :
    renameInLine file number index line = ⟨lineAfter index line (segments line),
      (asked index (segments line)).map (Diff.ofRename file number)⟩ := by
  rw [renameInLine, renamesOn_eq]
  rfl

/-- A line comes about by the replacements that its selectors ask for. -/
theorem replacements_renameInLine (file : String) (number : Int) (index : Index) (line : List α) :
    Replacements (asked index (segments line)) line (renameInLine file number index line).text := by
  obtain ⟨done, hdone, hmade⟩ := deal_segments index (segments line) [] []
  rw [textOf_segments, List.nil_append, List.append_nil, List.append_nil] at hdone hmade
  rwa [renameInLine_eq, hdone]

/-- A line grows by what its diffs add. -/
theorem length_renameInLine (file : String) (number : Int) (index : Index) (line : List α) :
    ((renameInLine file number index line).text.length : Int) =
      line.length + growth α (renameInLine file number index line).diffs := by
  rw [(replacements_renameInLine file number index line).length_eq, renameInLine_eq,
    growth_ofRename]

/-! ## A whole content -/

theorem map_text_renameInLines (file : String) (index : Index) (number : Int)
    (lines : List (List α)) :
    (renameInLines file index number lines).map Renamed.text =
      lines.map fun line => lineAfter index line (segments line) := by
  induction lines generalizing number with
  | nil => rfl
  | cons line rest ih => rw [renameInLines, List.map_cons, List.map_cons, ih, renameInLine_eq]

/-- What is true of every line that is renamed, and of two parts with a newline between them if it
is true of both, is true of every content. -/
theorem content_induction {file : String} {index : Index}
    {motive : List α → List Diff → List α → Prop}
    (hline : ∀ number line, motive line (renameInLine file number index line).diffs
      (renameInLine file number index line).text)
    (hjoin : ∀ left ds left' right es right', motive left ds left' → motive right es right' →
      motive (left ++ newline :: right) (ds ++ es) (left' ++ newline :: right'))
    (content : List α) :
    motive content (renameInContent file index content).diffs
      (renameInContent file index content).text := by
  -- On lists of lines, from any number on.
  have all : ∀ (lines : List (List α)) (number : Int), lines ≠ [] →
      motive (joinWith newline lines)
        ((renameInLines file index number lines).flatMap Renamed.diffs)
        (joinWith newline ((renameInLines file index number lines).map Renamed.text)) := by
    intro lines
    induction lines with
    | nil => exact fun _ h => absurd rfl h
    | cons line rest ih =>
      intro number _
      rw [renameInLines, List.map_cons, List.flatMap_cons]
      cases rest with
      | nil =>
        rw [renameInLines, List.flatMap_nil, List.append_nil]
        exact hline number line
      | cons next rest => exact hjoin _ _ _ _ _ _ (hline number line) (ih (number + 1) (by simp))
  have hcontent := all (splitOn newline content) 1 (splitOn_ne_nil newline content)
  rwa [joinWith_splitOn] at hcontent

theorem length_renameInContent (file : String) (index : Index) (content : List α) :
    ((renameInContent file index content).text.length : Int) =
      content.length + growth α (renameInContent file index content).diffs := by
  refine content_induction
    (motive := fun text diffs text' => (text'.length : Int) = text.length + growth α diffs)
    (fun number line => length_renameInLine file number index line) ?_ content
  intro left ds left' right es right' hleft hright
  simp only [List.length_append, List.length_cons, growth_append]
  omega

/-- There is nothing to rename in an empty text. -/
theorem diffs_renameInContent_nil (file : String) (index : Index) :
    (renameInContent file index ([] : List α)).diffs = [] := by
  have hline : (renameInLine file 1 index ([] : List α)).diffs = [] := by
    rw [renameInLine_eq, segments_nil]
    rfl
  show (renameInLines file index 1 [[]]).flatMap Renamed.diffs = []
  rw [renameInLines, renameInLines, List.flatMap_cons, hline]
  rfl

theorem text_renameInLine_of_no_diffs {file : String} {number : Int} {index : Index}
    {line : List α} (h : (renameInLine file number index line).diffs = []) :
    (renameInLine file number index line).text = line := by
  rw [renameInLine_eq, List.map_eq_nil_iff] at h
  rw [renameInLine_eq, lineAfter, h]
  rfl

/-- Without diffs nothing has changed. -/
theorem text_of_no_diffs {file : String} {index : Index} {content : List α}
    (h : (renameInContent file index content).diffs = []) :
    (renameInContent file index content).text = content := by
  refine content_induction (motive := fun text diffs text' => diffs = [] → text' = text)
    (fun number line => text_renameInLine_of_no_diffs) ?_ content h
  intro left ds left' right es right' hleft hright hnone
  obtain ⟨hds, hes⟩ := List.append_eq_nil_iff.1 hnone
  rw [hleft hds, hright hes]

/-- The diffs of a content stand for renames of the index. -/
theorem exists_rename_of_mem_diffs {file : String} {index : Index} {content : List α} {d : Diff}
    (h : d ∈ (renameInContent file index content).diffs) :
    ∃ r ∈ index.renames, ∃ number, d = Diff.ofRename file number r := by
  refine content_induction (motive := fun _ diffs _ =>
    d ∈ diffs → ∃ r ∈ index.renames, ∃ number, d = Diff.ofRename file number r) ?_ ?_ content h
  · intro number line hd
    rw [renameInLine_eq] at hd
    obtain ⟨r, hr, rfl⟩ := List.mem_map.1 hd
    exact ⟨r, mem_of_mem_asked hr, number, rfl⟩
  · intro left ds left' right es right' hleft hright hd
    exact (List.mem_append.1 hd).elim hleft hright

/-! ## The law -/

/-- How the diffs of a line account for what became of it. -/
structure Accounted (file : String) (number : Int) (index : Index) (line : List α)
    (done : Renamed α) : Prop where
  /-- There is one diff for each selector that the index knows, in order. -/
  diffs_eq : done.diffs = (asked index (segments line)).map (Diff.ofRename file number)
  text_eq : done.text = lineAfter index line (segments line)
  /-- Each diff stands for one replacement, and no other ones are made. -/
  made : Replacements (asked index (segments line)) line done.text
  /-- Each of these selectors is still there when it is dealt with, with all that stood behind it,
  and it is then that the replacement for it is made. -/
  replaced : ∀ left name right r, segments line = left ++ .selector name :: right →
    index.find? (dot :: name) = some r →
      write r.oldSelector = dot :: name ∧
      asked index (left ++ [.selector name]) = asked index left ++ [r] ∧
      ∃ before, Replaced r before (textOf right) (lineAfter index line left)
        (lineAfter index line (left ++ [.selector name]))
  /-- What stands behind the last of them stays. -/
  kept : ∀ left right, segments line = left ++ right → asked index right = [] →
    ∃ before, done.text = before ++ textOf right
  length_eq : (done.text.length : Int) = line.length + growth α done.diffs

theorem lineAfter_left (index : Index) {line : List α} {left right : List (Segment α)}
    (h : segments line = left ++ right) :
    ∃ done, lineAfter index line left = done ++ textOf right := by
  obtain ⟨done, hdone, -⟩ := deal_segments index left [] (textOf right)
  refine ⟨done, ?_⟩
  rw [← hdone, List.nil_append, ← textOf_append, ← h, textOf_segments]

theorem accounted_renameInLine (file : String) (number : Int) (index : Index) (line : List α) :
    Accounted file number index line (renameInLine file number index line) where
  diffs_eq := by rw [renameInLine_eq]
  text_eq := by rw [renameInLine_eq]
  made := replacements_renameInLine file number index line
  replaced := by
    intro left name right r hsegs hfind
    have hseg : (Segment.selector name).rename? index = some r := hfind
    have hold := (Segment.selector name).text_of_rename? hseg
    have hasked : asked index [.selector name] = [r] := List.filterMap_cons_some hseg
    obtain ⟨before, hbefore⟩ := lineAfter_left index hsegs
    have hline : lineAfter index line left = before ++ write r.oldSelector ++ textOf right := by
      rw [hbefore, textOf_cons, hold, List.append_assoc]
    have hstep := replaced_applyRename r before (textOf right)
    rw [← hline, ← lineAfter_snoc hseg] at hstep
    exact ⟨hold.symm, by rw [asked_append, hasked], before, hstep⟩
  kept := by
    intro left right hsegs hnone
    obtain ⟨before, hbefore⟩ := lineAfter_left index hsegs
    refine ⟨before, ?_⟩
    rw [renameInLine_eq, ← hbefore, hsegs, lineAfter_append, lineAfter, hnone]
    rfl
  length_eq := length_renameInLine file number index line

/-- **Accounting.** Every diff of a line stands for one replacement that was made, whatever the names
are, and a line and a content grow by exactly what their diffs add. -/
theorem diffs_account_for_text (file : String) (index : Index) :
    (∀ (number : Int) (line : List α),
      Accounted file number index line (renameInLine file number index line)) ∧
    ∀ content : List α, ((renameInContent file index content).text.length : Int) =
      content.length + growth α (renameInContent file index content).diffs := by
  exact ⟨fun number line => accounted_renameInLine file number index line,
    fun content => length_renameInContent file index content⟩

end Restyle
