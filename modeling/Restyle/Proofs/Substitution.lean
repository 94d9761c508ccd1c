import Mathlib.Data.List.Infix
import Restyle.Proofs.Accounting

/-!
# Renaming as substitution

The selectors of a line can get into each other's way: the text of one may begin an earlier selector
that stays, or stand in what an earlier one has become. Where neither happens (`Undisturbed`), the
first occurrence of each selector is the one at its own place, so that renaming puts the new
selectors in the places of the old ones and does nothing else (`renaming_substitutes`).
-/

namespace Restyle

open Script Text

variable {α : Type} [DecidableEq α] [Script α]

/-! ## Substitution -/

/-- What stands in the place of a segment: the new selector if the index knows the old one. -/
def Segment.substituted (index : Index) : Segment α → List α
  | .symbol c => [c]
  | .selector name =>
    match index.find? (dot :: name) with
    | some r => write r.newSelector
    | none => dot :: name

/-- What stands in the places of segments, one after the other. -/
def substitutedIn (index : Index) (segs : List (Segment α)) : List α :=
  segs.flatMap (Segment.substituted index)

/-- A text with every selector that the index knows replaced in its own place, in one pass. -/
def substitute (index : Index) (text : List α) : List α :=
  substitutedIn index (segments text)

theorem substitutedIn_append (index : Index) (left right : List (Segment α)) :
    substitutedIn index (left ++ right) = substitutedIn index left ++ substitutedIn index right :=
  List.flatMap_append

theorem substitutedIn_cons (index : Index) (seg : Segment α) (segs : List (Segment α)) :
    substitutedIn index (seg :: segs) = seg.substituted index ++ substitutedIn index segs :=
  List.flatMap_cons

theorem Segment.substituted_known {index : Index} {name : List α} {r : Rename}
    (h : index.find? (dot :: name) = some r) :
    (Segment.selector name).substituted index = write r.newSelector := by
  rw [Segment.substituted, h]

theorem Segment.substituted_unknown {index : Index} {name : List α}
    (h : index.find? (dot :: name) = none) :
    (Segment.selector name).substituted index = dot :: name := by
  rw [Segment.substituted, h]

/-! ## Selectors that keep out of each other's way -/

/-- An earlier selector does not disturb a later one that the index knows: the later one does not
begin it if it stays, and does not occur in what it becomes. -/
structure Tolerates (index : Index) (earlier later : List α) : Prop where
  unknown : index.find? earlier = none → ¬ (later <+: earlier ∧ later ≠ earlier)
  known : ∀ r, index.find? earlier = some r → ¬ later <:+: write r.newSelector

instance (index : Index) (earlier later : List α) : Decidable (Tolerates index earlier later) :=
  decidable_of_iff
    ((index.find? earlier = none → ¬ (later <+: earlier ∧ later ≠ earlier)) ∧
      ∀ r ∈ index.find? earlier, ¬ later <:+: write r.newSelector)
    ⟨fun h => ⟨h.1, h.2⟩, fun h => ⟨h.unknown, h.known⟩⟩

/-- No selector of a line that the index knows is disturbed by one before it. -/
def Undisturbed (index : Index) (line : List α) : Prop :=
  (selectors line).Pairwise fun earlier later =>
    index.find? later ≠ none → Tolerates index earlier later

instance (index : Index) (line : List α) : Decidable (Undisturbed index line) :=
  inferInstanceAs (Decidable (List.Pairwise _ _))

/-- An earlier segment does not disturb a later one. -/
def Segment.Lets (index : Index) (earlier later : Segment α) : Prop :=
  ∀ s, earlier.selector? = some s → ∀ t, later.selector? = some t →
    index.find? t ≠ none → Tolerates index s t

theorem undisturbed_iff (index : Index) (line : List α) :
    Undisturbed index line ↔ (segments line).Pairwise (Segment.Lets index) := by
  rw [Undisturbed, selectors_eq, List.pairwise_filterMap]
  rfl

/-- Substitution leaves the ends of names as they are. -/
theorem endsName_substitutedIn (index : Index) {segs : List (Segment α)} {rest : List α}
    (h : EndsName (textOf segs ++ rest)) : EndsName (substitutedIn index segs ++ rest) := by
  cases segs with
  | nil => exact h
  | cons seg segs =>
    cases seg with
    | symbol c => exact endsName_cons (h c _ rfl)
    | selector name =>
      cases hfind : index.find? (dot :: name) with
      | none =>
        rw [substitutedIn_cons, Segment.substituted_unknown hfind]
        exact endsName_dot _
      | some r =>
        rw [substitutedIn_cons, Segment.substituted_known hfind, r.write_newSelector]
        exact endsName_dot _

/-- The substitute of an earlier selector has no room for a later one. -/
theorem Tolerates.not_in_substituted {index : Index} {m name b a : List α} (hm : IsName m)
    (hknown : index.find? (dot :: name) ≠ none) (h : Tolerates index (dot :: m) (dot :: name)) :
    (Segment.selector m).substituted index ≠ b ++ (dot :: name) ++ a := by
  intro heq
  cases hfind : index.find? (dot :: m) with
  | none =>
    rw [Segment.substituted_unknown hfind] at heq
    cases b with
    | nil =>
      refine h.unknown hfind ⟨⟨a, heq.symm⟩, fun e => ?_⟩
      rw [e] at hknown
      exact hknown hfind
    | cons d b =>
      -- The only dot of a selector is its first symbol.
      have hm' : m = b ++ (dot :: name) ++ a := (List.cons.inj heq).2
      exact absurd (by rw [hm']; simp) hm.dot_not_mem
  | some r =>
    rw [Segment.substituted_known hfind] at heq
    exact h.known r hfind ⟨b, a, heq.symm⟩

/-- Behind the substitutes of the selectors before it, an undisturbed selector occurs first at its
own place. -/
theorem first_at_own_place {index : Index} {left right : List (Segment α)} {name : List α}
    (hcut : WellCut (left ++ .selector name :: right)) (hname : IsName name)
    (hknown : index.find? (dot :: name) ≠ none)
    (htol : ∀ m, Segment.selector m ∈ left → Tolerates index (dot :: m) (dot :: name))
    {b a : List α}
    (h : substitutedIn index left ++ (dot :: name ++ textOf right) = b ++ (dot :: name) ++ a) :
    (substitutedIn index left).length ≤ b.length := by
  induction left generalizing b with
  | nil => exact Nat.zero_le _
  | cons seg left ih =>
    have htol' : ∀ m, Segment.selector m ∈ left → Tolerates index (dot :: m) (dot :: name) :=
      fun m hm => htol m (List.mem_cons_of_mem _ hm)
    have hends (hrest : EndsName (textOf (left ++ .selector name :: right))) :
        EndsName (substitutedIn index left ++ (dot :: name ++ textOf right)) := by
      rw [textOf_append] at hrest
      exact endsName_substitutedIn index hrest
    rw [substitutedIn_cons, List.append_assoc] at h
    rw [substitutedIn_cons, List.length_append]
    cases hcut with
    | @symbol c _ hdot hcut =>
      cases b with
      | nil =>
        -- A dot that stands alone still has no name behind it.
        obtain ⟨hc, hX⟩ := List.cons.inj h
        have : name.length ≤ ([] : List α).length := not_straddling hname.2 (hends (hdot hc)) hX
        exact absurd (List.eq_nil_of_length_eq_zero (Nat.le_zero.1 this)) hname.1
      | cons d b =>
        have := ih hcut htol' (List.cons.inj h).2
        show 1 + (substitutedIn index left).length ≤ b.length + 1
        omega
    | @selector m _ hm hrest hcut =>
      -- The occurrence lies within the substitute, which has no room for it, or behind it.
      rcases occurrence_split hname (hends hrest) h with ⟨more, hin, -⟩ | ⟨more, rfl, hX⟩
      · exact absurd hin ((htol m List.mem_cons_self).not_in_substituted hm hknown)
      · have := ih hcut htol' hX
        rw [List.length_append]
        omega

/-! ## A line -/

/-- Dealing with a segment puts its substitute in its place. -/
theorem deal_undisturbed {index : Index} {left right : List (Segment α)} {seg : Segment α}
    (hcut : WellCut (left ++ seg :: right)) (hlets : ∀ e ∈ left, e.Lets index seg) :
    lineAfter index (substitutedIn index left ++ textOf (seg :: right)) [seg] =
      substitutedIn index (left ++ [seg]) ++ textOf right := by
  have hsub : substitutedIn index (left ++ [seg]) =
      substitutedIn index left ++ seg.substituted index := by
    rw [substitutedIn_append, substitutedIn_cons]
    simp [substitutedIn]
  rw [hsub, textOf_cons, List.append_assoc]
  cases seg with
  | symbol c => rfl
  | selector name =>
    cases hfind : index.find? (dot :: name) with
    | none =>
      have hasked : asked index [.selector name] = [] := List.filterMap_cons_none hfind
      rw [lineAfter, hasked, Segment.substituted_unknown hfind]
      rfl
    | some r =>
      have hasked : asked index [.selector name] = [r] := List.filterMap_cons_some hfind
      have hold := Index.write_of_find? hfind
      have hname : IsName name := hcut.isName (by simp)
      have hfirst : FirstOccurrence (write r.oldSelector) (substitutedIn index left) (textOf right)
          (substitutedIn index left ++ ((Segment.selector name).text ++ textOf right)) := by
        rw [hold]
        refine ⟨by rw [← List.append_assoc]; rfl, fun b a h => ?_⟩
        have hknown : index.find? (dot :: name) ≠ none := by rw [hfind]; simp
        exact first_at_own_place hcut hname hknown
          (fun m hm => hlets _ hm _ rfl _ rfl hknown) h
      rw [lineAfter, hasked, Segment.substituted_known hfind]
      show replaceFirst _ _ _ = _
      rw [replaceFirst_eq (by rw [hold]; simp) hfirst, List.append_assoc]

/-- In an undisturbed line everything is replaced in its own place. -/
theorem deal_all_undisturbed {index : Index} {left right : List (Segment α)}
    (hcut : WellCut (left ++ right)) (hlets : (left ++ right).Pairwise (Segment.Lets index)) :
    lineAfter index (substitutedIn index left ++ textOf right) right =
      substitutedIn index (left ++ right) := by
  induction right generalizing left with
  | nil => simp [lineAfter, asked]
  | cons seg right ih =>
    have hsplit : left ++ seg :: right = left ++ [seg] ++ right := by simp
    have hstep := deal_undisturbed hcut fun e he =>
      (List.pairwise_append.1 hlets).2.2 e he seg List.mem_cons_self
    rw [show lineAfter index _ (seg :: right) = lineAfter index _ right from
      lineAfter_append index _ [seg] right, hstep, hsplit]
    exact ih (hsplit ▸ hcut) (hsplit ▸ hlets)

theorem lineAfter_undisturbed {index : Index} {line : List α} (h : Undisturbed index line) :
    lineAfter index line (segments line) = substitute index line := by
  have hall : lineAfter index (substitutedIn index [] ++ textOf (segments line)) (segments line) =
      substitutedIn index ([] ++ segments line) :=
    deal_all_undisturbed (wellCut_segments line) ((undisturbed_iff index line).1 h)
  rwa [textOf_segments] at hall

/-! ## A whole content -/

/-- Substitution goes line by line. -/
theorem substitute_joinWith (index : Index) (lines : List (List α)) :
    substitute index (joinWith newline lines) =
      joinWith newline (lines.map (substitute index)) := by
  apply map_joinWith
  · rw [substitute, segments_nil]
    rfl
  · intro line rest
    rw [substitute, segments_append dot_ne_newline.symm isName_newline, substitutedIn_append,
      substitutedIn_cons]
    rfl

/-- **Substitution.** If no selector is disturbed by one before it on its line, then renaming
replaces every selector that the index knows in its own place and changes nothing else. -/
theorem renaming_substitutes (file : String) (index : Index) (content : List α)
    (h : ∀ line ∈ splitOn newline content, Undisturbed index line) :
    (renameInContent file index content).text = substitute index content := by
  calc (renameInContent file index content).text
      = joinWith newline ((splitOn newline content).map fun line =>
          lineAfter index line (segments line)) := by
        rw [renameInContent, map_text_renameInLines]
    _ = joinWith newline ((splitOn newline content).map (substitute index)) := by
        rw [List.map_congr_left fun line hline => lineAfter_undisturbed (h line hline)]
    _ = substitute index content := by
        rw [← substitute_joinWith, joinWith_splitOn]

/-- A selector may come before a longer one and again after it, and new names may be empty or hold
dots and blanks. -/
theorem renaming_substitutes_repeated :
    let index := Index.ofList [⟨"a_b", "x.y z"⟩, ⟨"c_d", ""⟩]
    let content : List Glyph := ".a_b .c_d .a_b .a_b-wide\n.c_d-é .a_bé"
    (∀ line ∈ splitOn newline content, Undisturbed index line) ∧
      (renameInContent "m.css" index content).text =
        Glyph.ofString ".x.y z . .x.y z .a_b-wide\n.c_d-é .x.y zé" := by
  intro index content
  have hlines : ∀ line ∈ splitOn newline content, Undisturbed index line := by decide +kernel
  have hsub : substitute index content =
      Glyph.ofString ".x.y z . .x.y z .a_b-wide\n.c_d-é .x.y zé" := by decide +kernel
  exact ⟨hlines, (renaming_substitutes "m.css" index content hlines).trans hsub⟩

end Restyle
