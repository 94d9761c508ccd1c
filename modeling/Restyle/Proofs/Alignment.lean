import Restyle.Proofs.Entries
import Restyle.Proofs.Listings
import Restyle.Proofs.SummaryText

/-!
# Aligned listings

Renames are listed one a line, with the old names filled up to the longest of them, so that the arrows
stand below each other. How wide a line is filled depends on all the others, but what it says does not:
an old name ends at the first blank, and behind the blanks and the arrow stands the new one
(`Listing.renameOfLine_renameLine`). So a listing is read back line by line, and no other list of renames
looks like it (`listing_aligned_and_lossless`). Names may hold hyphens and brackets, since an arrow has
a blank on both sides. They may hold surrogates too, of which JSON text cannot tell everything: two that
stand for a character are written as this character is.
-/

namespace Restyle

open Text

namespace Listing

/-! ## One line -/

/-- A name without any white space in it. -/
def IsWord (name : List Glyph) : Prop :=
  ∀ g ∈ name, g.isBlank = false

instance : DecidablePred IsWord := fun name =>
  decidable_of_iff (name.all fun g => !g.isBlank) (by simp [IsWord])

theorem IsWord.blank_not_mem {name : List Glyph} (h : IsWord name) : Glyph.char ' ' ∉ name :=
  fun hmem => absurd (h (.char ' ') hmem) (by decide)

/-- The glyphs of an arrow with blanks around it. -/
def arrow : List Glyph :=
  Glyph.ofString " -> "

/-- Between the names of a line stand the blanks that fill it and the arrow. -/
theorem renameLine_eq (width : Nat) (r : Rename) : renameLine width r =
    r.old ++ (List.replicate (width - r.old.length) (.char ' ') ++ (arrow ++ r.new)) := by
  rw [renameLine, padRight, List.append_assoc, List.append_assoc, arrow]

theorem length_padRight {width : Nat} {name : List Glyph} (h : name.length ≤ width) :
    (padRight width name).length = width := by
  rw [padRight, List.length_append, List.length_replicate]
  omega

/-- Behind the old name, the only arrow with blanks around it stands where the blanks that fill the line
end. -/
theorem length_before_arrow_of_fill {new before after : List Glyph} {fill : Nat}
    (hnew : .char ' ' ∉ new) (h : List.replicate fill (.char ' ') ++ (arrow ++ new) =
      before ++ (arrow ++ after)) : before.length = fill := by
  induction fill generalizing before with
  | succ fill ih =>
    rw [List.replicate_succ, List.cons_append] at h
    cases before with
    | nil =>
      -- Behind a blank that fills the line stands another blank.
      have hdash := (List.cons.inj h).2
      cases fill <;> cases hdash
    | cons d before => rw [List.length_cons, ih (List.cons.inj h).2]
  | zero =>
    cases before with
    | nil => rfl
    | cons d before =>
      -- An arrow further on has two blanks, but behind the first blank here there is only one.
      have hrest : Glyph.ofString "-> " ++ new = before ++ (arrow ++ after) := (List.cons.inj h).2
      have hcount := congrArg (List.count (Glyph.char ' ')) hrest
      have hnone : new.count (Glyph.char ' ') = 0 := List.count_eq_zero.2 hnew
      have hone : (Glyph.ofString "-> ").count (.char ' ') = 1 := by decide
      have htwo : arrow.count (.char ' ') = 2 := by decide
      rw [List.count_append, List.count_append, List.count_append, hone, hnone, htwo] at hcount
      omega

/-- The only arrow with blanks around it is the one behind the blanks that fill the line. -/
theorem length_before_arrow {old new before after : List Glyph} {fill : Nat}
    (hold : .char ' ' ∉ old) (hnew : .char ' ' ∉ new)
    (h : old ++ (List.replicate fill (.char ' ') ++ (arrow ++ new)) = before ++ (arrow ++ after)) :
    before.length = old.length + fill := by
  induction old generalizing before with
  | nil => rw [length_before_arrow_of_fill hnew h, List.length_nil, Nat.zero_add]
  | cons g old ih =>
    rw [List.mem_cons, not_or] at hold
    cases before with
    | nil => exact absurd (List.cons.inj h).1.symm hold.1
    | cons d before =>
      have hrest := ih hold.2 (List.cons.inj h).2
      rw [List.length_cons, List.length_cons, hrest, Nat.add_right_comm]

/-- This line shows a rename: one arrow stands in it, at this column, behind the old name and the blanks
that fill it up, and in front of the new name. -/
structure ShownAt (width : Nat) (r : Rename) (line : List Glyph) : Prop where
  line_eq : ∃ fill, (∀ g ∈ fill, g = .char ' ') ∧ (r.old ++ fill).length = width ∧
    line = r.old ++ fill ++ arrow ++ r.new
  only : ∀ before after, line = before ++ arrow ++ after → before.length = width

theorem shownAt_renameLine {width : Nat} {r : Rename} (hold : IsWord r.old) (hnew : IsWord r.new)
    (hwidth : r.old.length ≤ width) : ShownAt width r (renameLine width r) where
  line_eq := ⟨List.replicate (width - r.old.length) (.char ' '),
    fun _ hg => List.eq_of_mem_replicate hg, length_padRight hwidth, rfl⟩
  only := by
    intro before after h
    rw [renameLine_eq, List.append_assoc before] at h
    have harrow := length_before_arrow hold.blank_not_mem hnew.blank_not_mem h
    omega

/-- The rename that a line shows: the old name ends at the first blank, and the new one stands behind
the blanks and the arrow. -/
def renameOfLine (line : List Glyph) : Rename :=
  let behind := (line.dropWhile (· ≠ .char ' ')).dropWhile (· = .char ' ')
  ⟨line.takeWhile (· ≠ .char ' '), behind.drop "-> ".length⟩

theorem renameOfLine_renameLine (width : Nat) {r : Rename} (hold : IsWord r.old) :
    renameOfLine (renameLine width r) = r := by
  have hne : ∀ g ∈ r.old, decide (g ≠ Glyph.char ' ') = true :=
    fun g hg => decide_eq_true fun e => hold.blank_not_mem (e ▸ hg)
  have hblank : ∀ g ∈ List.replicate (width - r.old.length + 1) (Glyph.char ' '),
      decide (g = Glyph.char ' ') = true :=
    fun g hg => decide_eq_true (List.eq_of_mem_replicate hg)
  -- The blank of the arrow is taken together with those that fill the line.
  have hline : renameLine width r =
      r.old ++ (List.replicate (width - r.old.length + 1) (.char ' ') ++
        .char '-' :: .char '>' :: .char ' ' :: r.new) := by
    rw [renameLine_eq, List.replicate_succ', List.append_assoc (List.replicate _ _)]
    rfl
  rw [renameOfLine, hline, List.takeWhile_append_of_pos hne, List.dropWhile_append_of_pos hne]
  simp only [List.replicate_succ, List.cons_append]
  rw [List.takeWhile_cons_of_neg (by simp), List.dropWhile_cons_of_neg (by simp), ← List.cons_append,
    ← List.replicate_succ, List.dropWhile_append_of_pos hblank, List.dropWhile_cons_of_neg (by decide),
    List.append_nil]
  rfl

/-- A line has no other white space in it than blanks. -/
theorem eq_of_mem_renameLine {width : Nat} {r : Rename} (hold : IsWord r.old) (hnew : IsWord r.new)
    {g : Glyph} (hg : g ∈ renameLine width r) (hblank : g.isBlank = true) : g = .char ' ' := by
  have harrow : ∀ g ∈ arrow, g.isBlank = true → g = .char ' ' := by decide
  rw [renameLine_eq, List.mem_append, List.mem_append, List.mem_append] at hg
  rcases hg with hg | hg | hg | hg
  · rw [hold g hg] at hblank
    cases hblank
  · exact List.eq_of_mem_replicate hg
  · exact harrow g hg hblank
  · rw [hnew g hg] at hblank
    cases hblank

/-! ## The listing -/

/-- The column of the arrows is the length of a longest old name. -/
theorem renameWidth_spec {renames : List Rename} (hne : renames ≠ []) :
    (∃ r ∈ renames, r.old.length = renameWidth renames) ∧
      ∀ r ∈ renames, r.old.length ≤ renameWidth renames := by
  obtain ⟨width, hwidth⟩ : ∃ width, (renames.map fun r => r.old.length).max? = some width := by
    rw [← Option.isSome_iff_exists, List.isSome_max?_iff]
    exact fun e => hne (List.map_eq_nil_iff.1 e)
  have hfold : renameWidth renames = width := by
    rw [renameWidth, List.foldl_max, hwidth, Option.getD_some, Nat.zero_max]
  obtain ⟨hmem, hmax⟩ := List.max?_eq_some_iff.1 hwidth
  rw [hfold]
  exact ⟨List.mem_map.1 hmem, fun r hr => hmax _ (List.mem_map_of_mem hr)⟩

/-- The renames that a listing shows. -/
def renamesOf (text : List Glyph) : List Rename :=
  if text = Glyph.ofString "No results" then [] else (Glyph.lines text).map renameOfLine

section Whole

variable {renames : List Rename}

theorem ofRenames_eq_unlines (hne : renames ≠ []) :
    ofRenames renames = Glyph.unlines (renames.map (renameLine (renameWidth renames))) := by
  rw [ofRenames, if_neg hne]

variable (h : ∀ r ∈ renames, IsWord r.old ∧ IsWord r.new)

include h

theorem lines_ofRenames (hne : renames ≠ []) :
    Glyph.lines (ofRenames renames) = renames.map (renameLine (renameWidth renames)) := by
  rw [ofRenames_eq_unlines hne]
  refine Glyph.lines_unlines (fun e => hne (List.map_eq_nil_iff.1 e)) fun line hline hmem => ?_
  obtain ⟨r, hr, rfl⟩ := List.mem_map.1 hline
  have hsame := eq_of_mem_renameLine (h r hr).1 (h r hr).2 hmem (by decide)
  exact absurd hsame (by decide)

/-- No listing says that there is nothing. -/
theorem ofRenames_ne_noResults (hne : renames ≠ []) :
    ofRenames renames ≠ Glyph.ofString "No results" := by
  intro htext
  have hlines := lines_ofRenames h hne
  rw [htext] at hlines
  obtain ⟨r, rest, rfl⟩ := List.exists_cons_of_ne_nil hne
  -- The first line would have to be this one, which has no arrow.
  have hfirst : renameLine (renameWidth (r :: rest)) r = Glyph.ofString "No results" :=
    (List.cons.inj hlines).1.symm
  have harrow : Glyph.char '>' ∈ renameLine (renameWidth (r :: rest)) r := by
    rw [renameLine_eq]
    simp [arrow, Glyph.ofString]
  rw [hfirst] at harrow
  exact absurd harrow (by decide)

theorem shownAt_lines (hne : renames ≠ []) :
    List.Forall₂ (ShownAt (renameWidth renames)) renames (Glyph.lines (ofRenames renames)) := by
  rw [lines_ofRenames h hne, List.forall₂_map_right_iff, List.forall₂_same]
  exact fun r hr => shownAt_renameLine (h r hr).1 (h r hr).2 ((renameWidth_spec hne).2 r hr)

/-- A listing is read back. -/
theorem renamesOf_ofRenames : renamesOf (ofRenames renames) = renames := by
  by_cases hne : renames = []
  · subst hne
    rfl
  · have hback : ∀ r ∈ renames, renameOfLine (renameLine (renameWidth renames) r) = r :=
      fun r hr => renameOfLine_renameLine _ (h r hr).1
    rw [renamesOf, if_neg (ofRenames_ne_noResults h hne), lines_ofRenames h hne, List.map_map]
    exact (List.map_congr_left hback).trans (List.map_id' renames)

theorem eq_of_mem_ofRenames {g : Glyph} (hg : g ∈ ofRenames renames)
    (hblank : g.isBlank = true) : g = .char ' ' ∨ g = .char '\n' := by
  by_cases hne : renames = []
  · subst hne
    have hall : ∀ g ∈ Glyph.ofString "No results", g.isBlank = true → g = .char ' ' := by decide
    exact .inl (hall g hg hblank)
  · rw [ofRenames_eq_unlines hne] at hg
    rcases Glyph.mem_unlines hg with hg | ⟨line, hline, hg⟩
    · exact .inr hg
    · obtain ⟨r, hr, rfl⟩ := List.mem_map.1 hline
      exact .inl (eq_of_mem_renameLine (h r hr).1 (h r hr).2 hg hblank)

end Whole

end Listing

/-! ## The same renames in JSON -/

namespace Rename

/-- A rename with a character in the place of every two surrogates that stand for it. -/
def joined (r : Rename) : Rename :=
  ⟨Glyph.joined r.old, Glyph.joined r.new⟩

theorem joined_of_areChars {r : Rename} (h : Glyph.AreChars r.old ∧ Glyph.AreChars r.new) :
    r.joined = r := by
  rw [joined, Glyph.joined_of_areChars h.1, Glyph.joined_of_areChars h.2]

theorem isJson_joined (r : Rename) : r.joined.toValue.IsJson := by
  have hkeys : ["oldClass", "newClass"].Nodup := by decide
  refine .table hkeys ?_
  simp only [List.forall_mem_cons]
  exact ⟨.text (Json.joined_joined _), .text (Json.joined_joined _), by simp⟩

theorem renderAt_joined (level : Nat) (r : Rename) :
    Json.renderAt level r.joined.toValue = Json.renderAt level r.toValue := by
  simp only [toValue, joined, Json.renderAt, Json.renderFields, Json.stringText_joined]

theorem render_joined (renames : List Rename) :
    Json.render (.list ((renames.map joined).map toValue)) =
      Json.render (.list (renames.map toValue)) := by
  have hitems (level : Nat) : Json.renderItems level ((renames.map joined).map toValue) =
      Json.renderItems level (renames.map toValue) := by
    induction renames with
    | nil => rfl
    | cons r rest ih =>
      simp only [List.map_cons, Json.renderItems, renderAt_joined, ih]
  rw [Json.render, Json.render, Json.renderAt, Json.renderAt, hitems]

/-- The JSON text of renames is read as that of the renames with their surrogates joined. -/
theorem read_render (renames : List Rename) : Json.read (Json.render (.list (renames.map toValue))) =
    some (.list ((renames.map joined).map toValue)) := by
  rw [← render_joined]
  refine Json.read_render (.list fun v hv => ?_)
  obtain ⟨r', hr', rfl⟩ := List.mem_map.1 hv
  obtain ⟨r, -, rfl⟩ := List.mem_map.1 hr'
  exact r.isJson_joined

theorem mapM_toValue (renames : List Rename) :
    (renames.map toValue).mapM Record.rename? = .ok renames := by
  have hall : (renames.map toValue).mapM Record.rename? = .ok (renames.map id) :=
    mapM_map_ok fun r _ => rfl
  rwa [List.map_id] at hall

end Rename

open Listing

/-- **Listings.** Renames whose names have no white space in them are listed one a line, in order, with
the one arrow of each line at the column that the longest old name ends at, and there is no other white
space than that; without renames it is said that there are no results. The listing is read back as the
renames, so no others are listed in the same way. Their JSON form holds the same renames, with a
character in the place of every two surrogates that stand for it; these are the renames themselves if
their names are made of characters. -/
theorem listing_aligned_and_lossless (renames : List Rename)
    (h : ∀ r ∈ renames, IsWord r.old ∧ IsWord r.new) :
    ∃ text json, report .plain (.list (renames.map Rename.toValue)) = .ok text ∧
      report .json (.list (renames.map Rename.toValue)) = .ok (Glyph.ofString json) ∧
      (renames = [] → text = Glyph.ofString "No results") ∧
      (renames ≠ [] → ∃ width, (∃ r ∈ renames, r.old.length = width) ∧
        (∀ r ∈ renames, r.old.length ≤ width) ∧
        List.Forall₂ (ShownAt width) renames (Glyph.lines text)) ∧
      (∀ g ∈ text, g.isBlank = true → g = .char ' ' ∨ g = .char '\n') ∧
      renamesOf text = renames ∧
      (∀ others, (∀ r ∈ others, IsWord r.old ∧ IsWord r.new) →
        report .plain (.list (others.map Rename.toValue)) = .ok text → others = renames) ∧
      (∃ values, Json.read json = some (.list values) ∧
        values.mapM Record.rename? = .ok ((renamesOf text).map Rename.joined)) ∧
      ((∀ r ∈ renames, Glyph.AreChars r.old ∧ Glyph.AreChars r.new) →
        (renamesOf text).map Rename.joined = renamesOf text) := by
  have hback := renamesOf_ofRenames h
  refine ⟨ofRenames renames, Json.render (.list (renames.map Rename.toValue)), plain_renames renames,
    rfl, ?_, fun hne => ?_, fun g => eq_of_mem_ofRenames h, hback, fun others hothers hsame => ?_,
    ⟨_, Rename.read_render renames, ?_⟩, fun hchars => ?_⟩
  · rintro rfl
    rfl
  · obtain ⟨hreached, hmax⟩ := renameWidth_spec hne
    exact ⟨renameWidth renames, hreached, hmax, shownAt_lines h hne⟩
  · have htext : ofRenames others = ofRenames renames :=
      Except.ok.inj ((plain_renames others).symm.trans hsame)
    rw [← renamesOf_ofRenames hothers, htext, hback]
  · rw [hback]
    exact Rename.mapM_toValue (renames.map Rename.joined)
  · rw [hback]
    exact (List.map_congr_left fun r hr => Rename.joined_of_areChars (hchars r hr)).trans
      (List.map_id' renames)

/-- Names that hold an arrow without blanks, hyphens at the ends, and characters beyond ASCII. -/
theorem listing_aligned_and_lossless_arrows :
    let renames : List Rename := [⟨"a->b", "->"⟩, ⟨"-", "c_d"⟩, ⟨"é_x-😀", ">"⟩]
    let text : List Glyph := "a->b  -> ->\n-     -> c_d\né_x-😀 -> >"
    (∀ r ∈ renames, IsWord r.old ∧ IsWord r.new) ∧
    report .plain (.list (renames.map Rename.toValue)) = .ok text ∧
    (∃ width, (∃ r ∈ renames, r.old.length = width) ∧
      List.Forall₂ (ShownAt width) renames (Glyph.lines text)) ∧
    renamesOf text = renames ∧
    ∃ json values, report .json (.list (renames.map Rename.toValue)) = .ok (Glyph.ofString json) ∧
      Json.read json = some (.list values) ∧ values.mapM Record.rename? = .ok renames := by
  intro renames text
  have hwords : ∀ r ∈ renames, IsWord r.old ∧ IsWord r.new := by decide +kernel
  have hchars : ∀ r ∈ renames, Glyph.AreChars r.old ∧ Glyph.AreChars r.new := by
    decide +kernel
  have hplain : report .plain (.list (renames.map Rename.toValue)) = .ok text :=
    eq_ok_of_gives (by decide +kernel)
  obtain ⟨printed, json, hprinted, hjson, -, hlines, -, hback, -, ⟨values, hvalues, hread⟩, hsame⟩ :=
    listing_aligned_and_lossless renames hwords
  obtain rfl : text = printed := Except.ok.inj (hplain.symm.trans hprinted)
  obtain ⟨width, hreached, -, hshown⟩ := hlines (List.cons_ne_nil _ _)
  rw [hsame hchars, hback] at hread
  exact ⟨hwords, hplain, ⟨width, hreached, hshown⟩, hback, json, values, hjson, hvalues, hread⟩

/-- Two renames that are listed in different ways and have the same JSON form: the new name of one is a
character, that of the other the two surrogates that stand for it. -/
theorem surrogates_share_json_form :
    let r : Rename := ⟨"a_b", "𐀀"⟩
    let q : Rename := ⟨"a_b", [.lone 0xD800, .lone 0xDC00]⟩
    (∀ p ∈ [r, q], (IsWord p.old ∧ p.old ≠ []) ∧ IsWord p.new ∧ p.new ≠ []) ∧ r ≠ q ∧
    (∃ text text', report .plain (.list [r.toValue]) = .ok text ∧
      report .plain (.list [q.toValue]) = .ok text' ∧ renamesOf text = [r] ∧
      renamesOf text' = [q]) ∧
    report .json (.list [r.toValue]) = report .json (.list [q.toValue]) := by
  intro r q
  refine ⟨by decide +kernel, by decide +kernel, ⟨_, _, plain_renames [r], plain_renames [q],
    renamesOf_ofRenames (by decide +kernel), renamesOf_ofRenames (by decide +kernel)⟩, ?_⟩
  exact congrArg (fun text => Except.ok (Glyph.ofString text)) (Rename.render_joined [q])

end Restyle
