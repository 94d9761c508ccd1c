import Restyle.Proofs.Visits

/-!
# Files in another order

Renaming in a file reads and writes that file and nothing else. So a list of paths to different files
comes to what each of them asks for in the tree as it was, one after the other (`Renamings.diffs_eq`).
The tree that is left does not depend on the order of the paths at all, whatever they lead to
(`Renamings.tree_eq_of_perm`): an entry counts how often it was gone through, and keeps its place.

Renaming stops at a new name that cannot be written, and then the order tells which files were gone
through before (`stopped_renaming_depends_on_order`). Whether it stops at all does not depend on the
order (`exists_renamings_iff`).
-/

namespace Restyle

open Text

/-! ## Trees with the same entries -/

namespace Tree

/-- A tree is told by the order of its entries, by what stands at each location and by where work is
done. -/
theorem ext_of_locations {t t' : Tree} (hhere : t.here = t'.here)
    (hkeys : t.entries.map Prod.fst = t'.entries.map Prod.fst)
    (hnodes : ∀ l, t.node? l = t'.node? l) : t = t' := by
  have hlength : t.entries.length = t'.entries.length := by
    simpa using congrArg List.length hkeys
  have hentries : t.entries = t'.entries := by
    refine List.ext_getElem hlength fun k hk hk' => ?_
    have hfst : t.entries[k].1 = t'.entries[k].1 := by
      simpa [hk, hk'] using congrArg (fun keys => keys[k]?) hkeys
    have hnode : t.node? t.entries[k].1 = some t.entries[k].2 :=
      (mem_entries.1 (List.getElem_mem hk)).2
    have hnode' : t'.node? t'.entries[k].1 = some t'.entries[k].2 :=
      (mem_entries.1 (List.getElem_mem hk')).2
    rw [hnodes, hfst, hnode'] at hnode
    exact Prod.ext hfst (Option.some.inj hnode).symm
  exact Tree.ext hentries hhere

/-- New content stands where the old one stood. -/
theorem map_fst_place {t : Tree} {l : Location} {old : Octets} (h : t.node? l = some (.file old))
    (content : Octets) :
    (t.place l (.file content)).entries.map Prod.fst = t.entries.map Prod.fst := by
  have hl : l ≠ [] := by
    rintro rfl
    cases h
  have hmem : l ∈ t.entries.map Prod.fst := List.mem_map_of_mem (mem_entries.2 ⟨hl, h⟩)
  rw [entries_place (admits_of_file h content), map_fst_placeIn, if_pos hmem]

end Tree

variable {index : Index} {t tree tree' : Tree} {path other : String} {diffs diffs' : List Diff}
  {paths paths' : List String}

theorem map_fst_renameAt (h : Action.renameAt index path t = (.ok diffs, tree)) :
    tree.entries.map Prod.fst = t.entries.map Prod.fst := by
  rcases renameAt_ok_cases h with ⟨l, content, hw, -, rfl⟩ | ⟨-, -, rfl⟩
  · exact Tree.map_fst_place (Tree.node?_of_walk hw) _
  · rfl

theorem Renamings.map_fst_entries (h : Renamings index paths t diffs tree) :
    tree.entries.map Prod.fst = t.entries.map Prod.fst := by
  induction h with
  | nil => rfl
  | cons hat _ ih => rw [ih, map_fst_renameAt hat]

/-- The order of the paths makes no difference to the tree, also where they lead to one file. -/
theorem Renamings.tree_eq_of_perm (h : Renamings index paths t diffs tree)
    (h' : Renamings index paths' t diffs' tree') (hperm : paths.Perm paths') : tree = tree' := by
  refine Tree.ext_of_locations (h.sameDirectories.here.trans h'.sameDirectories.here.symm)
    (h.map_fst_entries.trans h'.map_fst_entries.symm) fun l => ?_
  have htimes : t.timesListed paths l = t.timesListed paths' l := hperm.countP_eq _
  rw [h.node?_eq, h'.node?_eq, htimes]

/-! ## What each file asks for -/

/-- The diffs that the file of a path comes to, as it is. -/
def Tree.diffsAt (index : Index) (t : Tree) (path : String) : List Diff :=
  match t.read path with
  | .ok content => (renameInContent path index content).diffs
  | .error _ => []

theorem Tree.diffsAt_of_walk {l : Location} {content : Octets}
    (h : t.walk path = .ok (.file l content)) :
    t.diffsAt index path = (renameInContent path index content).diffs := by
  rw [diffsAt, read_of_walk h]

theorem diffsAt_of_renameAt (h : Action.renameAt index path t = (.ok diffs, tree)) :
    t.diffsAt index path = diffs := by
  rcases renameAt_ok_cases h with ⟨l, content, hw, rfl, -⟩ | ⟨hw, rfl, -⟩
  · exact Tree.diffsAt_of_walk hw
  · have hread : t.read path = .ok [] := by rw [Tree.read, hw]; rfl
    rw [Tree.diffsAt, hread]
    exact diffs_renameInContent_nil path index

/-- Renaming in one file does not change what another one asks for. -/
theorem diffsAt_renameAt_of_ne (h : Action.renameAt index path t = (.ok diffs, tree))
    (hne : t.location? path ≠ t.location? other) :
    tree.diffsAt index other = t.diffsAt index other := by
  rcases renameAt_ok_cases h with ⟨l, content, hw, -, rfl⟩ | ⟨-, -, rfl⟩
  · have hother : t.location? other ≠ some l := by
      rw [← Tree.location_of_walk_file hw]
      exact hne.symm
    have hwalk := Tree.walk_place_of_ne (Tree.node?_of_walk hw)
      (renameInContent path index content).text hother
    rw [Tree.diffsAt, Tree.diffsAt, Tree.read, Tree.read, hwalk]
  · rfl

/-- Paths to different files, none of which comes twice. -/
def Tree.AreDistinct (t : Tree) (paths : List String) : Prop :=
  paths.Pairwise fun path other => t.location? path ≠ t.location? other

instance (t : Tree) : DecidablePred t.AreDistinct := fun paths =>
  inferInstanceAs (Decidable (paths.Pairwise fun path other =>
    t.location? path ≠ t.location? other))

theorem areDistinct_renameAt (h : t.AreDistinct paths)
    (hat : Action.renameAt index path t = (.ok diffs, tree)) : tree.AreDistinct paths := by
  unfold Tree.AreDistinct
  simp only [Tree.location?_eq (sameDirectories_renameAt hat)]
  exact h

/-- Different files come to what each of them asks for at the start. -/
theorem Renamings.diffs_eq (h : Renamings index paths t diffs tree) (hpaths : t.AreDistinct paths) :
    diffs = paths.flatMap (t.diffsAt index) := by
  induction h with
  | nil => rfl
  | @cons path rest t t' t'' ds es hat _ ih =>
    obtain ⟨hpath, hrest⟩ := List.pairwise_cons.1 hpaths
    have hothers : rest.flatMap (t'.diffsAt index) = rest.flatMap (t.diffsAt index) := by
      simp only [List.flatMap_def]
      rw [List.map_congr_left fun other hother => diffsAt_renameAt_of_ne hat (hpath other hother)]
    rw [List.flatMap_cons, diffsAt_of_renameAt hat, ih (areDistinct_renameAt hrest hat), hothers]

theorem encodes_of_renameAt (h : Action.renameAt index path t = (.ok diffs, tree)) :
    ∀ d ∈ diffs, Glyph.encodes d.new = true := by
  rcases renameAt_cases h with ⟨l, content, -, hresult, -⟩ | ⟨-, hresult, -⟩ | ⟨_, -, hresult, -⟩
  · rw [(Renamed.left_of_result hresult.symm).1]
    exact Renamed.encodes_of_result hresult.symm
  · cases hresult
    exact List.forall_mem_nil _
  · cases hresult

/-- Renaming in different files goes through if all that they ask for can be written, and only then. -/
theorem exists_renamings_iff (hfiles : ∀ path ∈ paths, t.isFile path = true)
    (hpaths : t.AreDistinct paths) : (∃ diffs tree, Renamings index paths t diffs tree) ↔
      ∀ path ∈ paths, ∀ d ∈ t.diffsAt index path, Glyph.encodes d.new = true := by
  induction paths generalizing t with
  | nil => exact iff_of_true ⟨[], t, .nil t⟩ (List.forall_mem_nil _)
  | cons path rest ih =>
    rw [List.forall_mem_cons] at hfiles ⊢
    obtain ⟨hpath, hrest⟩ := List.pairwise_cons.1 hpaths
    -- Renaming by the first path leaves the others what they ask for.
    have hothers {ds : List Diff} {t' : Tree} (hat : Action.renameAt index path t = (.ok ds, t')) :
        (∃ diffs tree, Renamings index rest t' diffs tree) ↔
          ∀ other ∈ rest, ∀ d ∈ t.diffsAt index other, Glyph.encodes d.new = true := by
      rw [ih (fun other hother => isFile_renameAt hat (hfiles.2 other hother))
        (areDistinct_renameAt hrest hat)]
      refine forall₂_congr fun other hother => ?_
      rw [diffsAt_renameAt_of_ne hat (hpath other hother)]
    constructor
    · rintro ⟨diffs, tree, hall⟩
      cases hall with
      | cons hat hafter =>
        refine ⟨?_, (hothers hat).1 ⟨_, _, hafter⟩⟩
        rw [diffsAt_of_renameAt hat]
        exact encodes_of_renameAt hat
    · rintro ⟨hfirst, hafter⟩
      obtain ⟨l, content, hl, hnode⟩ := Tree.isFile_iff.1 hfiles.1
      have hw := Tree.walk_of_location hl
      rw [Tree.placeAt, hnode] at hw
      rw [Tree.diffsAt_of_walk hw] at hfirst
      obtain ⟨t', hat, -⟩ := exists_tree_renameAt hw (List.all_eq_true.2 hfirst)
      obtain ⟨es, tree, hes⟩ := (hothers hat).2 hafter
      exact ⟨_, tree, .cons hat hes⟩

/-! ## The diffs of one path -/

theorem file_of_mem_diffsAt {d : Diff} (h : d ∈ t.diffsAt index path) : d.file = path := by
  rw [Tree.diffsAt] at h
  split at h
  · obtain ⟨r, -, number, rfl⟩ := exists_rename_of_mem_diffs h
    rfl
  · cases h

/-- The diffs of one path are what its file asks for, once for each time that it is listed. -/
theorem filter_file_flatMap (index : Index) (t : Tree) (paths : List String) (file : String) :
    (paths.flatMap (t.diffsAt index)).filter (fun d => d.file = file) =
      (List.replicate (paths.count file) file).flatMap (t.diffsAt index) := by
  induction paths with
  | nil => rfl
  | cons path rest ih =>
    rw [List.flatMap_cons, List.filter_append, ih]
    by_cases hpath : path = file
    · have hall : (t.diffsAt index path).filter (fun d => d.file = file) =
          t.diffsAt index path := by
        rw [List.filter_eq_self]
        intro d hd
        simp [file_of_mem_diffsAt hd, hpath]
      rw [hall, hpath, List.count_cons_self, List.replicate_succ, List.flatMap_cons]
    · have hnone : (t.diffsAt index path).filter (fun d => d.file = file) = [] := by
        rw [List.filter_eq_nil_iff]
        intro d hd
        simp [file_of_mem_diffsAt hd, hpath]
      rw [hnone, List.nil_append, List.count_cons_of_ne hpath]

/-! ## Summaries -/

/-- Summaries of the same diffs in another order. -/
theorem Summary.modified_perm (h : diffs.Perm diffs') :
    (ofDiffs diffs).modified.Perm (ofDiffs diffs').modified := by
  refine (List.perm_ext_iff_of_nodup (nodup_firstOccurrences _ _)
    (nodup_firstOccurrences _ _)).2 fun file => ?_
  show file ∈ (ofDiffs diffs).modified ↔ file ∈ (ofDiffs diffs').modified
  simp only [Summary.mem_modified, h.mem_iff]

/-- **Order.** Renaming in different files, all of which may be read and written, goes through in every
order of their paths, or in none: it does if all new names that the files ask for can be written. When it
goes through it leaves the same tree, and of each path the same diffs in the same order; so the summary
counts as many changes and lists the same files. -/
theorem order_of_files_is_free (index : Index) (s : Session) {paths paths' : List String}
    (hfiles : ∀ path ∈ paths, s.tree.isFile path = true) (hpaths : s.tree.AreDistinct paths)
    (hperm : paths.Perm paths') :
    ((∃ diffs s₁, (Action.renameInFiles index paths).outcome s = (.ok diffs, s₁)) ↔
      ∀ path ∈ paths, ∀ d ∈ s.tree.diffsAt index path, Glyph.encodes d.new = true) ∧
    ((∃ diffs s₁, (Action.renameInFiles index paths).outcome s = (.ok diffs, s₁)) ↔
      ∃ diffs' s₂, (Action.renameInFiles index paths').outcome s = (.ok diffs', s₂)) ∧
    ∀ diffs diffs' s₁ s₂,
      (Action.renameInFiles index paths).outcome s = (.ok diffs, s₁) →
      (Action.renameInFiles index paths').outcome s = (.ok diffs', s₂) →
        s₁.tree = s₂.tree ∧
        (∀ file, diffs.filter (fun d => d.file = file) = diffs'.filter fun d => d.file = file) ∧
        (Summary.ofDiffs diffs).total = (Summary.ofDiffs diffs').total ∧
        (Summary.ofDiffs diffs).modified.Perm (Summary.ofDiffs diffs').modified := by
  have hfiles' : ∀ path ∈ paths', s.tree.isFile path = true :=
    fun path hpath => hfiles path (hperm.mem_iff.2 hpath)
  have hpaths' : s.tree.AreDistinct paths' := hperm.pairwise hpaths fun h => h.symm
  have hreturns (paths : List String) :
      (∃ diffs s₁, (Action.renameInFiles index paths).outcome s = (.ok diffs, s₁)) ↔
        ∃ diffs tree, Renamings index paths s.tree diffs tree := by
    constructor
    · rintro ⟨diffs, s₁, hout⟩
      exact ⟨diffs, s₁.tree, .of_outcome hout⟩
    · rintro ⟨diffs, tree, hall⟩
      obtain ⟨s₁, hout, -⟩ := hall.yields s.web s rfl rfl
      exact ⟨diffs, s₁, hout⟩
  have hasked : (∃ diffs tree, Renamings index paths s.tree diffs tree) ↔
      ∀ path ∈ paths, ∀ d ∈ s.tree.diffsAt index path, Glyph.encodes d.new = true :=
    exists_renamings_iff hfiles hpaths
  refine ⟨(hreturns paths).trans hasked, ?_, fun diffs diffs' s₁ s₂ hout hout' => ?_⟩
  · rw [hreturns paths, hreturns paths', hasked, exists_renamings_iff hfiles' hpaths']
    simp only [hperm.mem_iff]
  · have hall := Renamings.of_outcome hout
    have hall' := Renamings.of_outcome hout'
    have hdiffs := hall.diffs_eq hpaths
    have hdiffs' := hall'.diffs_eq hpaths'
    have hsame : diffs.Perm diffs' := by
      rw [hdiffs, hdiffs']
      exact hperm.flatMap_right _
    refine ⟨hall.tree_eq_of_perm hall' hperm, fun file => ?_, hsame.length_eq,
      Summary.modified_perm hsame⟩
    rw [hdiffs, hdiffs', filter_file_flatMap, filter_file_flatMap, hperm.count_eq]

/-- Two files in both orders, one of them with two diffs. -/
theorem order_of_files_is_free_two :
    let t := (Tree.empty.place ["a.css"] (.file (octetsOf ".a_b .a_b"))).place ["b.css"]
      (.file (octetsOf ".q\n.a_b"))
    let s := Session.start t [] Web.unreachable
    let index := Index.ofList [⟨"a_b", "c-d"⟩]
    let paths := ["a.css", "./b.css"]
    (∀ path ∈ paths, s.tree.isFile path = true) ∧ s.tree.AreDistinct paths ∧
    paths.Perm ["./b.css", "a.css"] ∧
    ∃ diffs diffs' s₁ s₂,
      (Action.renameInFiles index paths).outcome s = (.ok diffs, s₁) ∧
      (Action.renameInFiles index ["./b.css", "a.css"]).outcome s = (.ok diffs', s₂) ∧
      s₁.tree = s₂.tree ∧ diffs.length = 3 ∧ diffs ≠ diffs' ∧
      ∀ file, diffs.filter (fun d => d.file = file) = diffs'.filter fun d => d.file = file := by
  intro t s index paths
  have hfiles : ∀ path ∈ paths, s.tree.isFile path = true := by decide +kernel
  have hpaths : s.tree.AreDistinct paths := by decide +kernel
  have hperm : paths.Perm ["./b.css", "a.css"] := List.Perm.swap _ _ _
  obtain ⟨hreturns, hboth, hsame⟩ := order_of_files_is_free index s hfiles hpaths hperm
  obtain ⟨diffs, s₁, hout⟩ := hreturns.2 (by decide +kernel)
  obtain ⟨diffs', s₂, hout'⟩ := hboth.1 ⟨diffs, s₁, hout⟩
  obtain ⟨htree, hfilter, -⟩ := hsame diffs diffs' s₁ s₂ hout hout'
  have htest : gives (fun diffs => diffs.length = 3 ∧ (diffs.map Diff.file).head? = some "a.css")
      ((Action.renameInFiles index paths).outcome s).1 = true := by decide +kernel
  have htest' : gives (fun diffs => (diffs.map Diff.file).head? = some "./b.css")
      ((Action.renameInFiles index ["./b.css", "a.css"]).outcome s).1 = true := by decide +kernel
  rw [hout] at htest
  rw [hout'] at htest'
  obtain ⟨hlength, hfirst⟩ := of_decide_eq_true htest
  have hfirst' := of_decide_eq_true htest'
  refine ⟨hfiles, hpaths, hperm, diffs, diffs', s₁, s₂, hout, hout', htree, hlength, ?_, hfilter⟩
  rintro rfl
  rw [hfirst] at hfirst'
  exact absurd hfirst' (by decide)

/-- Of two files one asks for a name that cannot be written. The other one is gone through only if its
path comes first, and what is left depends on it. -/
theorem stopped_renaming_depends_on_order :
    let t := (Tree.empty.place ["a.css"] (.file (octetsOf ".e_f{}"))).place ["b.css"]
      (.file (octetsOf ".a_b{}"))
    let s := Session.start t [] Web.unreachable
    let index := Index.ofList [⟨"a_b", .lone 0xD800 :: Glyph.ofString "_x"⟩, ⟨"e_f", "g_h"⟩]
    let after (paths : List String) := ((Action.renameInFiles index paths).outcome s).2.tree
    (∀ path ∈ ["a.css", "b.css"], s.tree.isFile path = true) ∧
    s.tree.AreDistinct ["a.css", "b.css"] ∧ ["a.css", "b.css"].Perm ["b.css", "a.css"] ∧
    (after ["a.css", "b.css"]).read "a.css" = .ok (octetsOf ".g_h{}") ∧
    (after ["b.css", "a.css"]).read "a.css" = .ok (octetsOf ".e_f{}") ∧
    after ["a.css", "b.css"] ≠ after ["b.css", "a.css"] := by
  intro t s index after
  have hfirst : (after ["a.css", "b.css"]).read "a.css" = .ok (octetsOf ".g_h{}") := by
    decide +kernel
  have hlast : (after ["b.css", "a.css"]).read "a.css" = .ok (octetsOf ".e_f{}") := by
    decide +kernel
  refine ⟨by decide +kernel, by decide +kernel, List.Perm.swap _ _ _, hfirst, hlast, fun hsame => ?_⟩
  rw [hsame, hlast] at hfirst
  exact absurd (Except.ok.inj hfirst) (by decide +kernel)

end Restyle
