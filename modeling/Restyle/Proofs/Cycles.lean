import Mathlib.Algebra.GroupWithZero.Nat
import Mathlib.Logic.Relation
import Restyle.Proofs.ChangeLists
import Restyle.Proofs.Course

/-!
# Diffs and changes

A pass that changes a content has diffs, but renames can undo each other, and then there are diffs
although nothing has changed. That takes a name that becomes itself again when old names at its
beginning give way to new ones (`Index.Cyclic`), and every such index leaves some file as it is in
spite of its diffs (`diffs_tell_changes`).

A new name that is no name of a class takes more symbols into the content that are no name symbols.
There are never fewer of them, so in a content that comes out as it was all new names are names of
classes, and each replacement has made one name into another.
-/

namespace Restyle

open Script Text

/-! ## Cycles -/

/-- A name turns into another: an old name that it begins with gives way to the new one. -/
def Index.Turns (index : Index) (s t : List Glyph) : Prop :=
  IsName s ∧ IsName t ∧ ∃ r ∈ index.renames, ∃ tail, s = r.old ++ tail ∧ t = r.new ++ tail

/-- Some name turns into itself, by one rename or several. -/
def Index.Cyclic (index : Index) : Prop :=
  ∃ s, Relation.TransGen index.Turns s s

/-- The names in octets are those in glyphs, written out. -/
theorem Segment.exists_name_of_mem {content name : Octets}
    (h : Segment.selector name ∈ segments content) :
    ∃ s : List Glyph, IsName s ∧ name = write s := by
  rw [← toOctets_ofOctets content, segments_toOctets] at h
  obtain ⟨seg, hseg, hin⟩ := List.mem_flatMap.1 h
  cases seg with
  | symbol g =>
    obtain ⟨b, -, hb⟩ := List.mem_map.1 hin
    cases hb
  | selector s =>
    obtain rfl := Segment.selector.inj (List.mem_singleton.1 hin)
    exact ⟨s, (wellCut_segments _).isName hseg, rfl⟩

/-! ## Other symbols -/

/-- The number of octets that are no name octets. -/
def others (content : Octets) : Nat :=
  content.countP fun b => !isName b

theorem others_append (left right : Octets) :
    others (left ++ right) = others left + others right :=
  List.countP_append

theorem others_cons {b : UInt8} (h : isName b = false) (rest : Octets) :
    others (b :: rest) = others rest + 1 :=
  List.countP_cons_of_pos (by rw [h]; rfl)

theorem others_eq_zero {name : Octets} : others name = 0 ↔ ∀ b ∈ name, isName b = true := by
  rw [others, List.countP_eq_zero]
  simp

/-- Each replacement brings the other octets of its new name with it. -/
theorem Replacements.others_eq {rs : List Rename} {line line' : Octets}
    (h : Replacements rs line line') (hrs : ∀ r ∈ rs, IsName r.old) :
    others line' = others line + (rs.map fun r => others (write r.new)).sum := by
  induction h with
  | nil => simp
  | @cons r rs before rest line line' line'' hstep _ ih =>
    obtain ⟨b, a, hocc, -, rfl⟩ := hstep.replaced
    have hold : others (write r.old) = 0 := others_eq_zero.2 (hrs r List.mem_cons_self).write.2
    rw [ih fun q hq => hrs q (List.mem_cons_of_mem r hq), hocc.text_eq, r.write_oldSelector,
      r.write_newSelector, List.map_cons, List.sum_cons]
    simp only [others_append, others_cons isName_dot, hold]
    omega

theorem others_renameInContent (file : String) (index : Index) (content : Octets) :
    others (renameInContent file index content).text = others content +
      ((renameInContent file index content).diffs.map fun d => others (write d.new)).sum := by
  refine content_induction (motive := fun text diffs text' =>
    others text' = others text + (diffs.map fun d => others (write d.new)).sum) ?_ ?_ content
  · intro number line
    rw [(replacements_renameInLine file number index line).others_eq fun r hr =>
      isName_of_asked hr, renameInLine_eq, List.map_map]
    rfl
  · intro left ds left' right es right' hleft hright
    simp only [others_append, others_cons isName_newline, List.map_append, List.sum_append]
    omega

/-! ## Turning -/

/-- What `n` diffs make of a content: it has no fewer other octets than before, and if it has just as
many, then every diff has made one name into another. -/
structure Turned (index : Index) (content : Octets) (n : Nat) (content' : Octets) : Prop where
  others_le : others content ≤ others content'
  steps : others content' = others content →
    Steps index.named (segments content) n (segments content')

theorem Turned.refl (index : Index) (content : Octets) : Turned index content 0 content :=
  ⟨Nat.le_refl _, fun _ => .refl _⟩

theorem Turned.trans {index : Index} {content content' content'' : Octets} {m n : Nat}
    (h : Turned index content m content') (h' : Turned index content' n content'') :
    Turned index content (m + n) content'' := by
  have hle := h.others_le
  have hle' := h'.others_le
  refine ⟨Nat.le_trans hle hle', fun heq => ?_⟩
  exact (h.steps (by omega)).trans (h'.steps (by omega))

theorem isName_old_of_mem_diffs {file : String} {index : Index} {content : Octets} {d : Diff}
    (h : d ∈ (renameInContent file index content).diffs) : IsName d.old := by
  refine content_induction (α := UInt8) (motive := fun _ diffs _ => d ∈ diffs → IsName d.old)
    ?_ ?_ content h
  · intro number line hd
    rw [renameInLine_eq] at hd
    obtain ⟨r, hr, rfl⟩ := List.mem_map.1 hd
    exact isName_of_asked hr
  · intro left ds left' right es right' hleft hright hd
    exact (List.mem_append.1 hd).elim hleft hright

theorem turned_renameInContent {index : Index} (hnew : ∀ r ∈ index.renames, r.new ≠ [])
    (file : String) (content : Octets) :
    Turned index content (renameInContent file index content).diffs.length
      (renameInContent file index content).text := by
  have hothers := others_renameInContent file index content
  refine ⟨by omega, fun heq => steps_of_named_diffs file content fun d hd => ?_⟩
  have hsum : ((renameInContent file index content).diffs.map fun d =>
      others (write d.new)).sum = 0 := by omega
  have hzero : others (write d.new) = 0 :=
    List.sum_eq_zero_iff_forall_eq_nat.1 hsum _ (List.mem_map_of_mem hd)
  obtain ⟨r, hr, number, rfl⟩ := exists_rename_of_mem_diffs hd
  exact ⟨isName_old_of_mem_diffs hd, hnew r hr, isName_of_write (others_eq_zero.1 hzero)⟩

/-! ## From replacements to a cycle -/

section Steps

variable {α : Type} [Script α] {index : Index}

/-- Replacements in a list of segments are those in the first one and those in the others. -/
theorem Steps.split_cons {seg : Segment α} {segs out : List (Segment α)} {n : Nat}
    (h : Steps index (seg :: segs) n out) : ∃ seg' segs' k m, out = seg' :: segs' ∧
      Steps index [seg] k [seg'] ∧ Steps index segs m segs' ∧ n = k + m := by
  induction h with
  | refl => exact ⟨seg, segs, 0, 0, rfl, .refl _, .refl _, rfl⟩
  | tail _ hstep ih =>
    obtain ⟨seg', segs', k, m, hlast, hfirst, hothers, rfl⟩ := ih
    cases hstep with
    | replace left right tail hr =>
      cases left with
      | nil =>
        obtain ⟨rfl, rfl⟩ := List.cons.inj hlast
        exact ⟨_, right, k + 1, m, rfl, hfirst.tail (.replace [] [] tail hr), hothers, by omega⟩
      | cons first left =>
        obtain ⟨rfl, rfl⟩ := List.cons.inj hlast
        exact ⟨first, _, k, m + 1, rfl, hfirst, hothers.tail (.replace left right tail hr), by omega⟩

/-- Segments that come out as they were hold one that does. -/
theorem Steps.exists_segment {segs : List (Segment α)} {n : Nat} (h : Steps index segs n segs)
    (hn : 0 < n) : ∃ seg ∈ segs, ∃ k, 0 < k ∧ Steps index [seg] k [seg] := by
  induction segs generalizing n with
  | nil =>
    generalize hend : ([] : List (Segment α)) = last at h
    cases h with
    | refl => exact absurd hn (Nat.lt_irrefl 0)
    | tail _ hstep =>
      cases hstep
      simp at hend
  | cons seg segs ih =>
    obtain ⟨seg', segs', k, m, hout, hfirst, hothers, rfl⟩ := h.split_cons
    obtain ⟨rfl, rfl⟩ := List.cons.inj hout
    by_cases hk : 0 < k
    · exact ⟨seg, List.mem_cons_self, k, hk, hfirst⟩
    · obtain ⟨found, hmem, hfound⟩ := ih hothers (by omega)
      exact ⟨found, List.mem_cons_of_mem _ hmem, hfound⟩

theorem Steps.of_symbol {c : α} {n : Nat} {out : List (Segment α)}
    (h : Steps index [.symbol c] n out) : out = [.symbol c] ∧ n = 0 := by
  induction h with
  | refl => exact ⟨rfl, rfl⟩
  | tail _ hstep ih =>
    obtain ⟨hlast, -⟩ := ih
    cases hstep with
    | replace left right tail hr =>
      cases left with
      | nil => cases (List.cons.inj hlast).1
      | cons first left => simp at hlast

end Steps

/-- Replacements in one name turn it into another. -/
theorem turns_of_steps {index : Index} {s : List Glyph} (hs : IsName s) {n : Nat}
    {out : List (Segment UInt8)} (h : Steps index.named [.selector (write s)] n out) :
    ∃ t, out = [.selector (write t)] ∧ IsName t ∧ (n = 0 → t = s) ∧
      (0 < n → Relation.TransGen index.Turns s t) := by
  induction h with
  | refl => exact ⟨s, rfl, hs, fun _ => rfl, fun h => absurd h (Nat.lt_irrefl 0)⟩
  | @tail segs' segs'' n _ hstep ih =>
    obtain ⟨t, hlast, ht, hsame, hturns⟩ := ih
    cases hstep with
    | @replace left right tail r hr =>
      obtain ⟨hmem, hold, hnew⟩ := Index.mem_named.1 hr
      cases left with
      | cons first left => simp at hlast
      | nil =>
        obtain ⟨hname, rfl⟩ := List.cons.inj hlast
        have hwrite : write r.old ++ tail = write t := Segment.selector.inj hname
        obtain ⟨u, rfl⟩ : r.old <+: t := prefix_of_write hold.2 ⟨tail, hwrite⟩
        rw [write_append] at hwrite
        obtain rfl : tail = write u := List.append_cancel_left hwrite
        have hafter : IsName (r.new ++ u) :=
          hnew.append fun g hg => ht.2 g (List.mem_append_right _ hg)
        have hturn : index.Turns (r.old ++ u) (r.new ++ u) := ⟨ht, hafter, r, hmem, u, rfl, rfl⟩
        refine ⟨r.new ++ u, by rw [write_append]; rfl, hafter, by simp, fun _ => ?_⟩
        rcases Nat.eq_zero_or_pos n with hn | hn
        · rw [← hsame hn]
          exact .single hturn
        · exact (hturns hn).tail hturn

/-- A content that comes out as it was in spite of diffs shows a cycle. -/
theorem Turned.cyclic {index : Index} {content : Octets} {n : Nat}
    (h : Turned index content n content) (hn : 0 < n) : index.Cyclic := by
  obtain ⟨seg, hmem, k, hk, hsteps⟩ := (h.steps rfl).exists_segment hn
  cases seg with
  | symbol c => exact absurd (hsteps.of_symbol).2 (Nat.ne_of_gt hk)
  | selector name =>
    obtain ⟨s, hs, rfl⟩ := Segment.exists_name_of_mem hmem
    obtain ⟨t, hout, -, -, hturns⟩ := turns_of_steps hs hsteps
    have hwrite : (write s : Octets) = write t := by simpa using hout
    obtain rfl := write_inj_of_isName hs.2 hwrite
    exact ⟨s, hturns hk⟩

/-! ## From a cycle to a content -/

/-- At the front of a text a rename is made there. -/
theorem applyRename_front (r : Rename) (rest : Octets) :
    applyRename (dot :: (write r.old ++ rest)) r = dot :: (write r.new ++ rest) := by
  have hfirst : FirstOccurrence (write r.oldSelector) [] rest (dot :: (write r.old ++ rest)) :=
    ⟨by rw [r.write_oldSelector]; rfl, fun _ _ _ => Nat.zero_le _⟩
  rw [applyRename, replaceFirst_eq r.write_oldSelector_ne_nil hfirst, r.write_newSelector]
  rfl

/-- The renames by which one name turns into another do so at the front of any text. -/
theorem exists_renames_of_turns {index : Index} (hold : ∀ r ∈ index.renames, r.old ≠ [])
    {s t : List Glyph} (h : Relation.TransGen index.Turns s t) :
    ∃ rs : List Rename, rs ≠ [] ∧
      (∀ r ∈ rs, r ∈ index.renames ∧ IsName r.old ∧ Glyph.encodes r.new = true) ∧
      ∀ rest : Octets, rs.foldl applyRename (dot :: (write s ++ rest)) =
        dot :: (write t ++ rest) := by
  have hturn {s t : List Glyph} (h : index.Turns s t) :
      ∃ r, (r ∈ index.renames ∧ IsName r.old ∧ Glyph.encodes r.new = true) ∧
        ∀ rest : Octets, applyRename (dot :: (write s ++ rest)) r = dot :: (write t ++ rest) := by
    obtain ⟨hs, ht, r, hr, tail, rfl, rfl⟩ := h
    refine ⟨r, ⟨hr, ⟨hold r hr, fun g hg => hs.2 g (List.mem_append_left _ hg)⟩, ?_⟩,
      fun rest => ?_⟩
    · exact Glyph.encodes_of_isName fun g hg => ht.2 g (List.mem_append_left _ hg)
    · rw [write_append, write_append, List.append_assoc, List.append_assoc, applyRename_front]
  induction h with
  | single hst =>
    obtain ⟨r, hr, happly⟩ := hturn hst
    exact ⟨[r], by simp, by simpa using hr, happly⟩
  | tail _ hst ih =>
    obtain ⟨rs, -, hrs, hfold⟩ := ih
    obtain ⟨r, hr, happly⟩ := hturn hst
    refine ⟨rs ++ [r], by simp, ?_, fun rest => ?_⟩
    · rw [List.forall_mem_append]
      exact ⟨hrs, by simpa using hr⟩
    · rw [List.foldl_append, hfold]
      exact happly rest

/-- A name that is longer than all old names is none of them. -/
theorem exists_padding (index : Index) {s : List Glyph} (hs : IsName s) : ∃ pad : List Glyph,
    IsName (s ++ pad) ∧ index.find? (dot :: write (s ++ pad) : Octets) = none := by
  obtain ⟨n, hn⟩ : ∃ n, ∀ r ∈ index.renames, r.old.length < n := by
    induction index.renames with
    | nil => exact ⟨0, by simp⟩
    | cons r rs ih =>
      obtain ⟨n, hn⟩ := ih
      refine ⟨max (r.old.length + 1) n, List.forall_mem_cons.2 ⟨by omega, fun q hq => ?_⟩⟩
      have := hn q hq
      omega
  have hname : IsName (s ++ List.replicate n (.char 'x')) := by
    refine hs.append fun g hg => ?_
    rw [List.eq_of_mem_replicate hg]
    decide
  refine ⟨List.replicate n (.char 'x'), hname, ?_⟩
  rw [Index.find?, List.find?_eq_none]
  intro r hr heq
  rw [decide_eq_true_eq, Rename.write_oldSelector_eq] at heq
  have hlen := congrArg List.length (write_inj_of_isName hname.2 heq.symm)
  rw [List.length_append, List.length_replicate] at hlen
  have := hn r hr
  omega

/-- Selectors one after the other are cut as such. -/
theorem wellCut_selectors {names : List Octets} (h : ∀ name ∈ names, IsName name) :
    WellCut (names.map Segment.selector) := by
  induction names with
  | nil => exact .nil
  | cons name names ih =>
    rw [List.forall_mem_cons] at h
    refine .selector h.1 ?_ (ih h.2)
    cases names with
    | nil => exact endsName_nil
    | cons next names => exact endsName_dot _

/-- Selectors one after the other are one line. -/
theorem renameInContent_selectors (file : String) (index : Index) {names : List Octets}
    (h : ∀ name ∈ names, IsName name) :
    renameInContent file index (textOf (names.map Segment.selector)) =
      renameInLine file 1 index (textOf (names.map Segment.selector)) := by
  have hline : newline ∉ textOf (names.map Segment.selector) := by
    intro hmem
    obtain ⟨seg, hseg, hin⟩ := List.mem_flatMap.1 hmem
    obtain ⟨name, hname, rfl⟩ := List.mem_map.1 hseg
    rcases List.mem_cons.1 hin with hdot | hin
    · exact absurd hdot.symm dot_ne_newline
    · have := (h name hname).2 _ hin
      rw [isName_newline] at this
      cases this
  rw [renameInContent, splitOn_of_not_mem hline]
  simp [renameInLines, joinWith]

/-- A cycle leaves some content as it was in spite of diffs, with names that can be written. -/
theorem Index.Cyclic.exists_content {index : Index} (h : index.Cyclic)
    (hold : ∀ r ∈ index.renames, r.old ≠ []) (file : String) :
    ∃ content : Octets, (renameInContent file index content).diffs ≠ [] ∧
      (renameInContent file index content).diffs.all Diff.encodes = true ∧
      (renameInContent file index content).text = content := by
  obtain ⟨s, hs⟩ := h
  obtain ⟨-, -, -, hname, -⟩ := Relation.TransGen.tail'_iff.1 hs
  obtain ⟨rs, hne, hrs, hfold⟩ := exists_renames_of_turns hold hs
  obtain ⟨pad, hpad, hnone⟩ := exists_padding index hname
  -- A name that no rename asks for, and behind it the old names in the order of the cycle.
  let names : List Octets := write (s ++ pad) :: rs.map fun r => write r.old
  have hnames : ∀ name ∈ names, IsName name := by
    rw [List.forall_mem_cons]
    refine ⟨hpad.write, ?_⟩
    intro name hmem
    obtain ⟨r, hr, rfl⟩ := List.mem_map.1 hmem
    exact (hrs r hr).2.1.write
  have hsegs : segments (textOf (names.map Segment.selector)) = names.map Segment.selector :=
    segments_textOf (wellCut_selectors hnames)
  have hasked : asked index (segments (textOf (names.map Segment.selector))) = rs := by
    rw [hsegs, List.map_cons, asked, List.filterMap_cons_none (by exact hnone), List.map_map,
      List.filterMap_map]
    rw [List.filterMap_congr (g := some) fun r hr => ?_]
    · exact List.filterMap_some
    · exact Index.find?_oldSelector (hrs r hr).1 (hrs r hr).2.1.write.isUnambiguous
  refine ⟨textOf (names.map Segment.selector), ?_⟩
  rw [renameInContent_selectors file index hnames, renameInLine_eq, lineAfter, hasked]
  refine ⟨?_, ?_, ?_⟩
  · simpa using hne
  · rw [List.all_map, List.all_eq_true]
    exact fun r hr => (hrs r hr).2.2
  · rw [List.map_cons, textOf_selector, write_append, List.append_assoc]
    exact hfold _

/-! ## Files -/

theorem Summary.mem_modified {diffs : List Diff} {file : String} :
    file ∈ (ofDiffs diffs).modified ↔ ∃ d ∈ diffs, d.file = file := by
  rw [ofDiffs, mem_firstOccurrences]
  simp

/-- Without diffs the session stays as it is: nothing is written and nothing is reported. -/
theorem outcome_renameInFile_none {index : Index} {path : String} {s : Session} {content : Octets}
    (hread : s.tree.read path = .ok content)
    (hnone : (renameInContent path index content).diffs = []) :
    (Action.renameInFile index path).outcome s = (.ok [], s) := by
  have hdone := Action.renameInContent_ofOctets path index content
  unfold Action.renameInFile
  rw [Action.outcome_bind_ok (Action.outcome_readText_ok hread)]
  dsimp only
  generalize renameInContent path index (Glyph.ofOctets content) = done at *
  have hdiffs : done.diffs = [] := by
    rw [hdone] at hnone
    exact hnone
  rw [hdiffs]
  rfl

/-- What renaming in files makes of a file. -/
theorem Renamings.turned {index : Index} (hnew : ∀ r ∈ index.renames, r.new ≠ [])
    {paths : List String} {t tree : Tree} {diffs : List Diff}
    (h : Renamings index paths t diffs tree) {l : Location} {old : Octets}
    (hl : t.node? l = some (.file old)) : ∃ new n, tree.node? l = some (.file new) ∧
      Turned index old n new ∧ ∀ d ∈ diffs, t.location? d.file = some l → 0 < n := by
  induction h generalizing old with
  | nil => exact ⟨old, 0, hl, .refl index old, by simp⟩
  | @cons path rest t t' t'' ds es hat _ ih =>
    have hsame := sameDirectories_renameAt hat
    have hrest {now : Octets} (hnow : t'.node? l = some (.file now)) :
        ∃ new n, t''.node? l = some (.file new) ∧ Turned index now n new ∧
          ∀ d ∈ es, t.location? d.file = some l → 0 < n := by
      obtain ⟨new, n, hnode, hturned, hpos⟩ := ih hnow
      exact ⟨new, n, hnode, hturned, fun d hd hdl =>
        hpos d hd ((Tree.location?_eq hsame d.file).trans hdl)⟩
    have hother (hds : ∀ d ∈ ds, t.location? d.file ≠ some l)
        (hnow : t'.node? l = some (.file old)) : ∃ new n, t''.node? l = some (.file new) ∧
          Turned index old n new ∧ ∀ d ∈ ds ++ es, t.location? d.file = some l → 0 < n := by
      obtain ⟨new, n, hnode, hturned, hpos⟩ := hrest hnow
      refine ⟨new, n, hnode, hturned, fun d hd hdl => ?_⟩
      exact (List.mem_append.1 hd).elim (fun h => absurd hdl (hds d h)) (fun h => hpos d h hdl)
    rcases renameAt_ok_cases hat with ⟨m, content, hw, rfl, rfl⟩ | ⟨-, rfl, rfl⟩
    · have hnode := Tree.node?_of_walk hw
      have hloc := Tree.location_of_walk_file hw
      by_cases hm : l = m
      · -- The path leads to this file, which goes through one pass more.
        subst hm
        obtain rfl : content = old := by
          rw [hl] at hnode
          exact (Node.file.inj (Option.some.inj hnode)).symm
        obtain ⟨new, n, hafter, hturned, hpos⟩ :=
          hrest (Tree.node?_place_self (Tree.admits_of_file hnode _))
        refine ⟨new, _, hafter, (turned_renameInContent hnew path content).trans hturned, ?_⟩
        intro d hd hdl
        rcases List.mem_append.1 hd with h | h
        · have := List.length_pos_of_mem h
          omega
        · have := hpos d h hdl
          omega
      · refine hother (fun d hd hdl => ?_) ((Tree.node?_place_of_ne t _ hm).trans hl)
        obtain ⟨r, -, number, rfl⟩ := exists_rename_of_mem_diffs hd
        exact hm (Option.some.inj (hdl.symm.trans hloc))
    · exact hother (by simp) hl

/-- A diff names a file. -/
theorem Renamings.exists_file {index : Index} {paths : List String} {t tree : Tree}
    {diffs : List Diff} (h : Renamings index paths t diffs tree) {d : Diff} (hd : d ∈ diffs) :
    ∃ l old, t.location? d.file = some l ∧ t.node? l = some (.file old) := by
  induction h with
  | nil => cases hd
  | @cons path rest t t' t'' ds es hat _ ih =>
    rcases List.mem_append.1 hd with hd | hd
    · rcases renameAt_ok_cases hat with ⟨l, content, hw, rfl, -⟩ | ⟨-, rfl, -⟩
      · obtain ⟨r, -, number, rfl⟩ := exists_rename_of_mem_diffs hd
        exact ⟨l, content, Tree.location_of_walk_file hw, Tree.node?_of_walk hw⟩
      · cases hd
    · obtain ⟨l, now, hloc, hnode⟩ := ih hd
      rw [Tree.location?_eq (sameDirectories_renameAt hat)] at hloc
      rw [node?_renameAt hat l] at hnode
      cases hold : t.node? l with
      | none =>
        rw [hold] at hnode
        cases hnode
      | some node =>
        cases node with
        | directory => exact absurd hold (Tree.not_directory_of_location hloc)
        | device => exact absurd hold (Tree.not_device_of_location hloc)
        | file old => exact ⟨l, old, hloc, hold⟩

theorem renameAt_of_outcome {index : Index} {path : String} {s s' : Session} {diffs : List Diff}
    (h : (Action.renameInFile index path).outcome s = (.ok diffs, s')) :
    Action.renameAt index path s.tree = (.ok diffs, s'.tree) := by
  obtain ⟨more, hout⟩ := Action.outcome_renameInFile index path s
  obtain ⟨hresult, rfl⟩ := Prod.mk.inj (h.symm.trans hout)
  rw [hresult, Session.tree_later]

/-- Renaming in a file goes through if the new names of its diffs can be written, and only then. -/
theorem exists_outcome_iff (index : Index) {path : String} {s : Session} {l : Location}
    {content : Octets} (h : s.tree.walk path = .ok (.file l content)) :
    (∃ diffs s', (Action.renameInFile index path).outcome s = (.ok diffs, s')) ↔
      ∀ d ∈ (renameInContent path index content).diffs, Glyph.encodes d.new = true := by
  have hall : (renameInContent path index content).diffs.all Diff.encodes = true ↔
      ∀ d ∈ (renameInContent path index content).diffs, Glyph.encodes d.new = true :=
    List.all_eq_true
  rw [← hall]
  constructor
  · rintro ⟨diffs, s', hout⟩
    have hat := renameAt_of_outcome hout
    rw [Action.renameAt_of_walk index h] at hat
    by_contra hnot
    have hresult := (Prod.mk.inj hat).1
    rw [Renamed.result, if_neg hnot] at hresult
    cases hresult
  · intro hencodes
    obtain ⟨tree, hat, -⟩ := exists_tree_renameAt h hencodes
    obtain ⟨more, hout⟩ := Action.outcome_renameInFile index path s
    rw [hat] at hout
    exact ⟨_, _, hout⟩

/-- What renaming that goes through makes of a file. -/
theorem node?_of_outcome {index : Index} {path : String} {s s' : Session} {l : Location}
    {content : Octets} {diffs : List Diff} (h : s.tree.walk path = .ok (.file l content))
    (hout : (Action.renameInFile index path).outcome s = (.ok diffs, s')) :
    diffs = (renameInContent path index content).diffs ∧
      s'.tree.node? l = some (.file (renameInContent path index content).text) := by
  have hnode := Tree.node?_of_walk h
  rcases renameAt_ok_cases (renameAt_of_outcome hout) with ⟨m, old, hw, hdiffs, htree⟩ | ⟨hw, -, -⟩
  · obtain ⟨rfl, rfl⟩ := Tree.Place.file.inj (Except.ok.inj (hw.symm.trans h))
    rw [htree]
    exact ⟨hdiffs, Tree.node?_place_self (Tree.admits_of_file hnode _)⟩
  · cases h.symm.trans hw

/-- Renaming that has no diffs leaves the session as it is. -/
theorem eq_of_outcome_nil {index : Index} {path : String} {s s' : Session}
    (h : (Action.renameInFile index path).outcome s = (.ok [], s')) : s' = s := by
  obtain ⟨content, hread, hnone⟩ : ∃ content, s.tree.read path = .ok content ∧
      (renameInContent path index content).diffs = [] := by
    rcases renameAt_ok_cases (renameAt_of_outcome h) with ⟨l, content, hw, hdiffs, -⟩ | ⟨hw, -, -⟩
    · exact ⟨content, Tree.read_of_walk hw, hdiffs.symm⟩
    · exact ⟨[], by rw [Tree.read, hw]; rfl, diffs_renameInContent_nil path index⟩
  have hout := outcome_renameInFile_none hread hnone
  exact (Prod.mk.inj (h.symm.trans hout)).2

theorem Renamings.of_outcome {index : Index} {paths : List String} {s s' : Session}
    {diffs : List Diff} (h : (Action.renameInFiles index paths).outcome s = (.ok diffs, s')) :
    Renamings index paths s.tree diffs s'.tree := by
  rcases Action.yields_renameInFiles s.web index paths s.tree with
    ⟨ds, tree, hall, hout⟩ | ⟨_, _, _, _, _, _, _, -, -, -, hout⟩
  · obtain ⟨hresult, htree, -⟩ := hout.outcome_eq
    rw [h] at hresult htree
    obtain rfl : diffs = ds := Except.ok.inj hresult
    obtain rfl : s'.tree = tree := htree
    exact hall
  · have hresult := hout.outcome_eq.1
    rw [h] at hresult
    cases hresult

/-- **Diffs.** Renaming in a file goes through if all new names in its diffs can be written. A file
without diffs is then neither written nor reported. A file with diffs has changed, whatever it holds, if
and only if no name turns into itself under the renames of the change list; and then a file that is
listed as modified has changed however often it was gone through. -/
theorem diffs_tell_changes (text : List Glyph) :
    let index := Index.ofList (ChangeList.renames text)
    (∀ s path l content, s.tree.walk path = .ok (.file l content) →
      ((∃ diffs s', (Action.renameInFile index path).outcome s = (.ok diffs, s')) ↔
        ∀ d ∈ (renameInContent path index content).diffs, Glyph.encodes d.new = true)) ∧
    (∀ s path s', (Action.renameInFile index path).outcome s = (.ok [], s') → s' = s) ∧
    ((∀ s path l content diffs s', s.tree.walk path = .ok (.file l content) →
      (Action.renameInFile index path).outcome s = (.ok diffs, s') →
        (diffs ≠ [] ↔ s'.tree.node? l ≠ some (.file content))) ↔ ¬ index.Cyclic) ∧
    (¬ index.Cyclic → ∀ s paths diffs s',
      (Action.renameInFiles index paths).outcome s = (.ok diffs, s') →
        (∀ file ∈ (Summary.ofDiffs diffs).modified, ∃ l old new,
          s.tree.walk file = .ok (.file l old) ∧ s'.tree.walk file = .ok (.file l new) ∧
          new ≠ old) ∧
        ((Summary.ofDiffs diffs).hasChanges = true → (Summary.ofDiffs diffs).modified ≠ [])) := by
  intro index
  have hold : ∀ r ∈ index.renames, r.old ≠ [] :=
    fun r hr => (ChangeList.ne_nil_of_mem_index hr).1
  have hnew : ∀ r ∈ index.renames, r.new ≠ [] :=
    fun r hr => (ChangeList.ne_nil_of_mem_index hr).2
  refine ⟨?_, ?_, ⟨?_, ?_⟩, ?_⟩
  · exact fun s path l content hw => exists_outcome_iff index hw
  · exact fun s path s' hout => eq_of_outcome_nil hout
  · -- The content that a cycle leaves as it was, in a file.
    intro hall hcyclic
    obtain ⟨content, hdiffs, hencodes, htext⟩ := hcyclic.exists_content hold "a.css"
    let s := Session.start (Tree.empty.place ["a.css"] (.file content)) [] Web.unreachable
    have hw : s.tree.walk "a.css" = .ok (.file ["a.css"] content) := rfl
    obtain ⟨diffs, s', hout⟩ := (exists_outcome_iff index hw).2 (List.all_eq_true.1 hencodes)
    obtain ⟨rfl, hnode⟩ := node?_of_outcome hw hout
    exact (hall s "a.css" _ _ _ s' hw hout).1 hdiffs (by rw [hnode, htext])
  · intro hacyclic s path l content diffs s' hw hout
    obtain ⟨rfl, hnode⟩ := node?_of_outcome hw hout
    rw [hnode]
    constructor
    · intro hdiffs heq
      have htext := Node.file.inj (Option.some.inj heq)
      have hturned := turned_renameInContent hnew path content
      rw [htext] at hturned
      exact hacyclic (hturned.cyclic (List.length_pos_iff.2 hdiffs))
    · intro hne hnone
      exact hne (by rw [text_of_no_diffs hnone])
  · intro hacyclic s paths diffs s' hout
    have hall := Renamings.of_outcome hout
    refine ⟨fun file hfile => ?_, fun hchanges => ?_⟩
    · obtain ⟨d, hd, rfl⟩ := Summary.mem_modified.1 hfile
      obtain ⟨l, old, hloc, hnode⟩ := hall.exists_file hd
      obtain ⟨new, n, hnode', hturned, hpos⟩ := hall.turned hnew hnode
      refine ⟨l, old, new, ?_, ?_, ?_⟩
      · rw [Tree.walk_of_location hloc, Tree.placeAt, hnode]
      · rw [Tree.walk_of_location (Tree.location_mono hall.sameDirectories hloc), Tree.placeAt,
          hnode']
      · rintro rfl
        exact hacyclic (hturned.cyclic (hpos d hd hloc))
    · cases diffs with
      | nil => cases hchanges
      | cons d ds => exact List.ne_nil_of_mem (Summary.mem_modified.2 ⟨d, List.mem_cons_self, rfl⟩)

/-- Two names that are swapped: two diffs, and the file is as it was. -/
theorem swapped_names_unchanged :
    let index := Index.ofList (ChangeList.renames "a_b\nb_a\nb_a\na_b")
    let content := octetsOf ".a_b .b_a"
    let s := Session.start (Tree.empty.place ["m.css"] (.file content)) [] Web.unreachable
    ∃ diffs s', s.tree.walk "m.css" = .ok (.file ["m.css"] content) ∧
      (Action.renameInFile index "m.css").outcome s = (.ok diffs, s') ∧
      diffs = [⟨"m.css", 1, "a_b", "b_a"⟩, ⟨"m.css", 1, "b_a", "a_b"⟩] ∧
      s'.tree.node? ["m.css"] = some (.file content) ∧
      ¬ (diffs ≠ [] ↔ s'.tree.node? ["m.css"] ≠ some (.file content)) := by
  intro index content s
  have hw : s.tree.walk "m.css" = .ok (.file ["m.css"] content) := rfl
  have hdiffs : (renameInContent "m.css" index content).diffs =
      [⟨"m.css", 1, "a_b", "b_a"⟩, ⟨"m.css", 1, "b_a", "a_b"⟩] := by decide +kernel
  have htext : (renameInContent "m.css" index content).text = content := by decide +kernel
  have hencodes : ∀ d ∈ (renameInContent "m.css" index content).diffs,
      Glyph.encodes d.new = true := by
    rw [hdiffs]
    decide +kernel
  obtain ⟨diffs, s', hout⟩ := (exists_outcome_iff index hw).2 hencodes
  obtain ⟨rfl, hnode⟩ := node?_of_outcome hw hout
  rw [htext] at hnode
  refine ⟨_, s', hw, hout, hdiffs, hnode, fun hiff => ?_⟩
  exact hiff.1 (by rw [hdiffs]; simp) hnode

end Restyle
