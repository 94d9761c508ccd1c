import Restyle.Proofs.Searches
import Restyle.Proofs.Visits

/-!
# Where the files of a directory lie

A directory that is named for its files is searched with its own path as a pattern. Every file that is
found lies below one of the directories that this pattern leads to, and its name has the form of a
star before one of the endings (`FileSet.exists_file_of_mem_ofPattern`). So a path without wildcards is
confined to its directory, and an ending without wildcards is meant as it is written; with wildcards
neither holds.
-/

namespace Restyle

open Text

namespace FileSet

open Restyle.Tree

variable {t : Tree} {directory ending path : String} {l m : Location}

/-- The files of a directory: where they lie and what they are called. -/
theorem exists_file_of_mem_ofPattern (hwalk : t.walk directory = .ok (.directory l))
    {endings files : List String} (hendings : ∀ ending ∈ endings, Path.slash ∉ ending.toList)
    (hfiles : ofPattern t directory endings = .ok files) (hpath : path ∈ files) :
    ∃ origin ∈ origins t directory, ∃ here names last content,
      t.directoryAt? origin = some here ∧
      t.walk path = .ok (.file (here ++ (names ++ [last])) content) ∧
      (∃ ending ∈ endings, Wildcard.isMatch ("*" ++ ending) last = true ∧
        (Wildcard.isMagic ending = false → ending.toList <:+ last.toList)) ∧
      (Wildcard.isMagic directory = false → here = l) := by
  rw [ofPattern_of_directory hwalk, ofDirectory_eq hwalk hendings] at hfiles
  obtain rfl := Except.ok.inj hfiles
  obtain ⟨hfound, hfile⟩ := mem_regularFiles.1 hpath
  obtain ⟨ending, hending, hfound⟩ := List.mem_flatMap.1 hfound
  obtain ⟨origin, horigin, here, names, last, content, hhere, -, -, hw, hmatch⟩ :=
    exists_names_of_found hfound hfile
  refine ⟨origin, horigin, here, names, last, content, hhere, hw, ⟨ending, hending, hmatch, ?_⟩, ?_⟩
  · intro hplain
    exact (Wildcard.isMatch_star_iff hplain).1 hmatch
  · intro hplain
    have hown := directoryAt?_of_mem_origins hwalk hplain horigin
    exact Option.some.inj (hhere.symm.trans hown)

end FileSet

/-- Renaming in files below a location changes nothing outside it. -/
theorem Renamings.node?_outside {index : Index} {paths : List String} {t tree : Tree}
    {diffs : List Diff} (h : Renamings index paths t diffs tree) {l m : Location}
    (hpaths : ∀ path ∈ paths, ∃ names, t.location? path = some (l ++ names)) (hm : ¬ l <+: m) :
    tree.node? m = t.node? m := by
  have htimes : t.timesListed paths m = 0 := by
    rw [Tree.timesListed, List.countP_eq_zero]
    intro path hpath hloc
    obtain ⟨names, hnames⟩ := hpaths path hpath
    rw [decide_eq_true_eq, hnames, Option.some.injEq] at hloc
    exact hm ⟨names, hloc⟩
  rw [h.node?_eq, htimes]
  cases t.node? m with
  | none => rfl
  | some node => rw [Option.map_some, Node.afterPasses_zero]

/-- So it is where renaming stops on the way. -/
theorem Action.node?_renameInFiles_outside (index : Index) {paths : List String} {s : Session}
    {l m : Location} (hpaths : ∀ path ∈ paths, ∃ names, s.tree.location? path = some (l ++ names))
    (hm : ¬ l <+: m) :
    ((renameInFiles index paths).outcome s).2.tree.node? m = s.tree.node? m := by
  rcases yields_renameInFiles s.web index paths s.tree with
    ⟨_, _, hall, hout⟩ | ⟨done, path, rest, _, tree, _, tree', rfl, hdone, hfail, hout⟩
  · rw [hout.outcome_eq.2.1]
    exact hall.node?_outside hpaths hm
  · rw [hout.outcome_eq.2.1, ← hdone.node?_outside
      (fun other hother => hpaths other (List.mem_append_left _ hother)) hm]
    rcases renameAt_cases hfail with ⟨k, content, hw, -, rfl⟩ | ⟨-, -, rfl⟩ | ⟨_, -, -, rfl⟩
    · -- The file where it stops lies below the location, too.
      obtain ⟨names, hnames⟩ := hpaths path (List.mem_append_right _ List.mem_cons_self)
      rw [← Tree.location?_eq hdone.sameDirectories, Tree.location_of_walk_file hw,
        Option.some.injEq] at hnames
      refine Tree.node?_place_of_ne tree _ fun hmk => hm ?_
      exact ⟨names, by rw [hmk, hnames]⟩
    · rfl
    · rfl

/-- **Confinement.** A directory stands for regular files below the directories that its path leads to
as a pattern, and their names have the form of a star before one of the endings. An ending without
wildcards is the end of the name; and if the path has no wildcards, all files lie below the directory
itself, so renaming in them changes nothing outside it, whether it goes through, as it does if the new
names can be written, or stops on the way. What lies below a directory lies in it: no subdirectory is a
link to another place. -/
theorem directory_files_confined (s : Session) {directory : String} {l : Location}
    (hdirectory : s.tree.walk directory = .ok (.directory l)) {endings : List String}
    (hendings : ∀ ending ∈ endings, Path.slash ∉ ending.toList) :
    ∃ files, FileSet.ofPattern s.tree directory endings = .ok files ∧
      (∀ path ∈ files, ∃ origin ∈ FileSet.origins s.tree directory, ∃ here names last content,
        s.tree.directoryAt? origin = some here ∧
        s.tree.walk path = .ok (.file (here ++ (names ++ [last])) content) ∧
        (∃ ending ∈ endings, Wildcard.isMatch ("*" ++ ending) last = true ∧
          (Wildcard.isMagic ending = false → ending.toList <:+ last.toList)) ∧
        (Wildcard.isMagic directory = false → here = l)) ∧
      ∀ index,
        ((∀ r ∈ index.renames, Glyph.encodes r.new = true) →
          ∃ diffs, ((Action.renameInFiles index files).outcome s).1 = .ok diffs) ∧
        (Wildcard.isMagic directory = false → ∀ m, ¬ l <+: m →
          ((Action.renameInFiles index files).outcome s).2.tree.node? m = s.tree.node? m) := by
  obtain ⟨files, hfiles⟩ : ∃ files, FileSet.ofPattern s.tree directory endings = .ok files := by
    rw [FileSet.ofPattern_of_directory hdirectory, FileSet.ofDirectory_eq hdirectory hendings]
    exact ⟨_, rfl⟩
  have hlie (path : String) (hpath : path ∈ files) :=
    FileSet.exists_file_of_mem_ofPattern hdirectory hendings hfiles hpath
  refine ⟨files, hfiles, hlie, fun index => ⟨fun hnames => ?_, fun hplain m hm => ?_⟩⟩
  · obtain ⟨diffs, tree, hall⟩ := exists_renamings hnames fun path hpath =>
      FileSet.isFile_of_mem_ofPattern hfiles hpath
    exact ⟨diffs, (hall.yields s.web).outcome_eq.1⟩
  · refine Action.node?_renameInFiles_outside index (fun path hpath => ?_) hm
    obtain ⟨-, -, here, names, last, content, -, hw, -, hhere⟩ := hlie path hpath
    rw [Tree.location_of_walk_file hw, hhere hplain]
    exact ⟨_, rfl⟩

/-- A directory with a file of its own and one further below, and a file outside. -/
theorem directory_files_confined_nested :
    let t := ((((Tree.empty.place ["d"] .directory).place ["d", "e"] .directory).place
      ["d", "e", "y.css"] (.file (octetsOf ".a_b"))).place ["d", "b.css"]
        (.file (octetsOf ".q"))).place ["z.css"] (.file (octetsOf ".a_b"))
    let s := Session.start t [] Web.unreachable
    s.tree.walk "d/" = .ok (.directory ["d"]) ∧
    (∀ ending ∈ [".css"], Path.slash ∉ ending.toList) ∧
    Wildcard.isMagic "d/" = false ∧
    FileSet.ofPattern s.tree "d/" [".css"] = .ok ["d/b.css", "d/e/y.css"] ∧
    (∀ path ∈ ["d/b.css", "d/e/y.css"], ∃ names last content,
      s.tree.walk path = .ok (.file (["d"] ++ (names ++ [last])) content) ∧
      ".css".toList <:+ last.toList) ∧
    let out := (Action.renameInFiles (Index.ofList [⟨"a_b", "c-d"⟩])
      ["d/b.css", "d/e/y.css"]).outcome s
    (∃ diffs, out.1 = .ok diffs) ∧ out.2.tree.node? ["z.css"] = s.tree.node? ["z.css"] := by
  intro t s
  have hdirectory : s.tree.walk "d/" = .ok (.directory ["d"]) := by decide +kernel
  have hendings : ∀ ending ∈ [".css"], Path.slash ∉ ending.toList := by decide +kernel
  have hplain : Wildcard.isMagic "d/" = false := by decide +kernel
  have hfound : FileSet.ofPattern s.tree "d/" [".css"] = .ok ["d/b.css", "d/e/y.css"] :=
    FileSet.ofPattern_eq_of_pairwise hdirectory hendings (by decide +kernel) (by decide +kernel)
  obtain ⟨files, hfiles, hlie, hrename⟩ := directory_files_confined s hdirectory hendings
  obtain rfl := Except.ok.inj (hfiles.symm.trans hfound)
  obtain ⟨hreturns, hsame⟩ := hrename (Index.ofList [⟨"a_b", "c-d"⟩])
  refine ⟨hdirectory, hendings, hplain, hfound, fun path hpath => ?_,
    hreturns (by decide +kernel), hsame hplain ["z.css"] (by decide)⟩
  obtain ⟨-, -, here, names, last, content, -, hw, ⟨ending, hending, -, hend⟩, hhere⟩ :=
    hlie path hpath
  obtain rfl := List.mem_singleton.1 hending
  rw [hhere hplain] at hw
  exact ⟨names, last, content, hw, hend (by decide +kernel)⟩

/-- A directory whose name has a star also stands for the files of another one, and an ending with a
wildcard for names that do not end so. -/
theorem starred_directory_not_confined :
    let t := ((((Tree.empty.place ["a*"] .directory).place ["a*", "x.css"]
      (.file (octetsOf ".a_b"))).place ["ab"] .directory).place ["ab", "y.css"]
        (.file (octetsOf ".a_b")))
    let s := Session.start t [] Web.unreachable
    s.tree.walk "a*" = .ok (.directory ["a*"]) ∧
    FileSet.ofPattern s.tree "a*" [".css"] = .ok ["a*/x.css", "ab/y.css"] ∧
    s.tree.walk "ab/y.css" = .ok (.file ["ab", "y.css"] (octetsOf ".a_b")) ∧
    ¬ ["a*"] <+: ["ab", "y.css"] ∧
    ((Action.renameInFiles (Index.ofList [⟨"a_b", "c-d"⟩])
      ["a*/x.css", "ab/y.css"]).outcome s).2.tree.node? ["ab", "y.css"] =
        some (.file (octetsOf ".c-d")) ∧
    FileSet.ofPattern s.tree "ab" [".c?s"] = .ok ["ab/y.css"] ∧
    ¬ ".c?s".toList <:+ "y.css".toList := by
  intro t s
  have hstarred : s.tree.walk "a*" = .ok (.directory ["a*"]) := by decide +kernel
  have hother : s.tree.walk "ab" = .ok (.directory ["ab"]) := by decide +kernel
  refine ⟨hstarred, FileSet.ofPattern_eq_of_pairwise hstarred ?_ ?_ ?_, ?_, ?_, ?_,
    FileSet.ofPattern_eq_of_pairwise hother ?_ ?_ ?_, ?_⟩ <;> decide +kernel

end Restyle
