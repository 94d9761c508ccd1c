import Restyle.Proofs.Failures
import Restyle.Proofs.FoundAgain

/-!
# Files that are resolved

However a file was found, by its path, below a directory or with wildcards, it is a regular file, and
it stays one while selectors are renamed in any files (`Action.isFile_renameInFiles`). So renaming goes
through with every list of files if the new names can be written (`exists_renamings`), and no run fails
to read a file.
-/

namespace Restyle

open Text

variable {index : Index} {t tree : Tree} {diffs : List Diff}

/-! ## Files stay files -/

theorem Tree.isFile_place {l : Location} {old : Octets} (h : t.node? l = some (.file old))
    (content : Octets) {path : String} (hfile : t.isFile path = true) :
    (t.place l (.file content)).isFile path = true := by
  obtain ⟨m, now, hm, hnode⟩ := isFile_iff.1 hfile
  have hloc := location_mono (sameDirectories_place t l content) hm
  by_cases hlm : m = l
  · subst hlm
    exact isFile_iff.2 ⟨m, content, hloc, node?_place_self (admits_of_file h content)⟩
  · exact isFile_iff.2 ⟨m, now, hloc, by rw [node?_place_of_ne t _ hlm, hnode]⟩

/-- Renaming by one path keeps every file, whatever it comes to. -/
theorem isFile_renameAt {path other : String} {result : Except Failure (List Diff)}
    (h : Action.renameAt index path t = (result, tree)) (hfile : t.isFile other = true) :
    tree.isFile other = true := by
  rcases renameAt_cases h with ⟨l, content, hw, -, rfl⟩ | ⟨-, -, rfl⟩ | ⟨_, -, -, rfl⟩
  · exact Tree.isFile_place (Tree.node?_of_walk hw) _ hfile
  · exact hfile
  · exact hfile

theorem Renamings.isFile {paths : List String} (h : Renamings index paths t diffs tree)
    {other : String} (hfile : t.isFile other = true) : tree.isFile other = true := by
  induction h with
  | nil => exact hfile
  | cons hfirst _ ih =>
    apply ih
    exact isFile_renameAt hfirst hfile

/-- Renaming in files keeps every file, also where it stops on the way. -/
theorem Action.isFile_renameInFiles (index : Index) (paths : List String) {s : Session}
    {other : String} (hfile : s.tree.isFile other = true) :
    ((renameInFiles index paths).outcome s).2.tree.isFile other = true := by
  rcases yields_renameInFiles s.web index paths s.tree with
    ⟨_, _, hall, hout⟩ | ⟨_, _, _, _, _, _, _, -, hdone, hfail, hout⟩
  · rw [hout.outcome_eq.2.1]
    exact hall.isFile hfile
  · rw [hout.outcome_eq.2.1]
    exact isFile_renameAt hfail (hdone.isFile hfile)

/-! ## Files can be renamed in -/

theorem exists_renameAt (hnames : ∀ r ∈ index.renames, Glyph.encodes r.new = true) {path : String}
    (h : t.isFile path = true) :
    ∃ diffs tree, Action.renameAt index path t = (.ok diffs, tree) := by
  obtain ⟨l, content, hl, hnode⟩ := Tree.isFile_iff.1 h
  have hw := Tree.walk_of_location hl
  rw [Tree.placeAt, hnode] at hw
  obtain ⟨tree, hat, -⟩ := exists_tree_renameAt hw (encodes_diffs hnames path content)
  exact ⟨_, tree, hat⟩

/-- With names that can be written renaming goes through with every list of files, also with one that
names a file several times. -/
theorem exists_renamings (hnames : ∀ r ∈ index.renames, Glyph.encodes r.new = true)
    {paths : List String} (h : ∀ path ∈ paths, t.isFile path = true) :
    ∃ diffs tree, Renamings index paths t diffs tree := by
  induction paths generalizing t with
  | nil => exact ⟨[], t, .nil t⟩
  | cons path rest ih =>
    rw [List.forall_mem_cons] at h
    obtain ⟨diffs, t', hfirst⟩ := exists_renameAt hnames h.1
    -- The other paths lead to files in the tree that this one leaves, too.
    have hrest : ∀ other ∈ rest, t'.isFile other = true := by
      intro other hother
      exact isFile_renameAt hfirst (h.2 other hother)
    obtain ⟨others, tree, hothers⟩ := ih hrest
    exact ⟨diffs ++ others, tree, .cons hfirst hothers⟩

/-- A file is always read. Renaming in it stops only at a new name that cannot be written. -/
theorem Stopped.of_isFile {path : String} {e : Failure} (h : Stopped index path e t tree)
    (hfile : t.isFile path = true) : e = .unexplained .unencodable ∧
      ∃ l content d, t.walk path = .ok (.file l content) ∧ tree = t.place l (.file []) ∧
        d ∈ (renameInContent path index content).diffs ∧ Glyph.encodes d.new = false := by
  cases h with
  | unread hread =>
    obtain ⟨l, content, hl, hnode⟩ := Tree.isFile_iff.1 hfile
    rw [Tree.read_of_location hl hnode] at hread
    cases hread
  | @unwritten _ l content d hw hd hencodes => exact ⟨rfl, l, content, d, hw, rfl, hd, hencodes⟩

/-! ## Runs -/

/-- The stages of a run, of which the first that fails ends it. Renaming fails at a name only. -/
theorem Run.Course.stages {r : Run} {web : Web} {result : Except Failure Summary}
    (h : r.Course web t result tree) :
    (∃ e, web.index r.followRedirects r.url = .error e ∧ result = .error e) ∨
    ∃ index, web.index r.followRedirects r.url = .ok index ∧
      ((∃ e, FileSet.resolve t r.input r.endings = .error e ∧ result = .error e) ∨
      ∃ files, FileSet.resolve t r.input r.endings = .ok files ∧
        ((∃ done path rest diffs before, files = done ++ path :: rest ∧
            Renamings index done t diffs before ∧ before.isFile path = true ∧
            Stopped index path (.unexplained .unencodable) before tree ∧
            result = .error (.unexplained .unencodable)) ∨
          ∃ diffs renamed, Renamings index files t diffs renamed ∧
            ((∃ fault, (Summary.ofDiffs diffs).reportAt (Path.normal r.summaryPath) renamed =
                .error fault ∧ result = .error (.ofSummary (Path.normal r.summaryPath) fault)) ∨
              (Summary.ofDiffs diffs).reportAt (Path.normal r.summaryPath) renamed = .ok tree ∧
                result = .ok (Summary.ofDiffs diffs)))) := by
  cases h with
  | unfetched hindex => exact .inl ⟨_, hindex, rfl⟩
  | @unresolved index _ hindex hfiles => exact .inr ⟨index, hindex, .inl ⟨_, hfiles, rfl⟩⟩
  | @unrenamed index done rest path _ before _ _ hindex hfiles hdone hfail =>
    have hfile : t.isFile path = true := by
      apply FileSet.isFile_of_mem_resolve hfiles
      exact List.mem_append_right _ List.mem_cons_self
    have hstop := stopped_of_renameAt hfail
    obtain ⟨rfl, -⟩ := hstop.of_isFile (hdone.isFile hfile)
    exact .inr ⟨index, hindex, .inr ⟨_, hfiles,
      .inl ⟨done, path, rest, _, before, rfl, hdone, hdone.isFile hfile, hstop, rfl⟩⟩⟩
  | @unreported index files diffs _ fault hindex hfiles hall hreport =>
    exact .inr ⟨index, hindex, .inr ⟨files, hfiles,
      .inr ⟨diffs, _, hall, .inl ⟨fault, hreport, rfl⟩⟩⟩⟩
  | @done index files diffs renamed _ hindex hfiles hall hreport =>
    exact .inr ⟨index, hindex, .inr ⟨files, hfiles, .inr ⟨diffs, renamed, hall, .inr ⟨hreport, rfl⟩⟩⟩⟩

/-- A run that fails has no change list, finds no files, comes to a name that cannot be written, or
cannot report its summary. -/
theorem Run.Course.of_error {r : Run} {web : Web} {e : Failure}
    (h : r.Course web t (.error e) tree) :
    web.index r.followRedirects r.url = .error e ∨
      FileSet.resolve t r.input r.endings = .error e ∨
      e = .unexplained .unencodable ∨
      ∃ fault, e = .ofSummary (Path.normal r.summaryPath) fault := by
  rcases h.stages with ⟨e, hindex, ⟨rfl⟩⟩ | ⟨index, -, ⟨e, hfiles, ⟨rfl⟩⟩ | ⟨files, -, hrest⟩⟩
  · exact .inl hindex
  · exact .inr (.inl hfiles)
  rcases hrest with ⟨_, _, _, _, _, -, -, -, -, ⟨rfl⟩⟩ |
    ⟨diffs, renamed, -, ⟨fault, -, ⟨rfl⟩⟩ | ⟨-, hresult⟩⟩
  · exact .inr (.inr (.inl rfl))
  · exact .inr (.inr (.inr ⟨fault, rfl⟩))
  · cases hresult

/-- Names that can be written in the index of a run keep it from failing at one. -/
theorem Run.Course.of_error_of_encodes {r : Run} {web : Web} {e : Failure}
    (h : r.Course web t (.error e) tree)
    (hnames : ∀ index, web.index r.followRedirects r.url = .ok index →
      ∀ r ∈ index.renames, Glyph.encodes r.new = true) :
    web.index r.followRedirects r.url = .error e ∨
      FileSet.resolve t r.input r.endings = .error e ∨
      ∃ fault, e = .ofSummary (Path.normal r.summaryPath) fault := by
  rcases h.stages with ⟨e, hindex, ⟨rfl⟩⟩ | ⟨index, hindex, ⟨e, hfiles, ⟨rfl⟩⟩ | ⟨files, -, hrest⟩⟩
  · exact .inl hindex
  · exact .inr (.inl hfiles)
  rcases hrest with ⟨_, path, _, _, before, -, hdone, hfile, hstop, -⟩ |
    ⟨diffs, renamed, -, ⟨fault, -, ⟨rfl⟩⟩ | ⟨-, hresult⟩⟩
  · obtain ⟨-, l, content, d, -, -, hd, hencodes⟩ := hstop.of_isFile hfile
    have hwritten : Glyph.encodes d.new = true :=
      List.all_eq_true.1 (encodes_diffs (hnames index hindex) path content) d hd
    rw [hwritten] at hencodes
    cases hencodes
  · exact .inr (.inr ⟨fault, rfl⟩)
  · cases hresult

/-- **Resolved files.** Every path that a list of patterns stands for leads to a regular file, and all
of them still do when selectors were renamed by the paths of any first part of the list, which goes
through if the new names can be written. So with such names a run ends early only without a change
list, without files, or at the summary, and no run ever ends for a file that cannot be read. -/
theorem resolved_files_are_renamed (s : Session) :
    (∀ input endings files s', (Action.resolveFiles input endings).outcome s = (.ok files, s') →
      s'.tree = s.tree ∧ (∀ path ∈ files, s'.tree.isFile path = true) ∧
      ∀ index done rest, files = done ++ rest →
        (∀ path ∈ files,
          ((Action.renameInFiles index done).outcome s').2.tree.isFile path = true) ∧
        ((∀ r ∈ index.renames, Glyph.encodes r.new = true) →
          ∃ diffs, ((Action.renameInFiles index done).outcome s').1 = .ok diffs)) ∧
    ∀ r : Run,
      (∀ e, (r.perform.outcome s).1 = .error e →
        (∀ index, ((Action.fetchIndex r.url r.followRedirects).outcome s).1 = .ok index →
          ∀ r ∈ index.renames, Glyph.encodes r.new = true) →
        ((Action.fetchIndex r.url r.followRedirects).outcome s).1 = .error e ∨
        ((Action.resolveFiles r.input r.endings).outcome s).1 = .error e ∨
        ∃ fault, e = .ofSummary (Path.normal r.summaryPath) fault) ∧
      ∀ path fault, (r.perform.outcome s).1 ≠ .error (.rename path fault) := by
  refine ⟨?_, fun r => ⟨?_, ?_⟩⟩
  · intro input endings files s' hout
    obtain ⟨hresult, htree, -⟩ :=
      (Action.yields_resolveFiles s.web s.tree input endings).outcome_eq
    rw [hout] at hresult htree
    have hfiles : ∀ path ∈ files, s'.tree.isFile path = true := by
      intro path hpath
      rw [htree]
      exact FileSet.isFile_of_mem_resolve hresult.symm hpath
    refine ⟨htree, hfiles, ?_⟩
    rintro index done rest rfl
    refine ⟨fun path hpath => Action.isFile_renameInFiles index done (hfiles path hpath), ?_⟩
    intro hnames
    obtain ⟨diffs, tree, hdone⟩ :=
      exists_renamings hnames fun path hpath => hfiles path (List.mem_append_left rest hpath)
    exact ⟨diffs, (hdone.yields s'.web).outcome_eq.1⟩
  · intro e hfail hnames
    have hcourse := r.course_perform s
    rw [hfail] at hcourse
    rw [(Action.yields_fetchIndex s.web s.tree r.url r.followRedirects).outcome_eq.1] at hnames ⊢
    rw [(Action.yields_resolveFiles s.web s.tree r.input r.endings).outcome_eq.1]
    exact hcourse.of_error_of_encodes hnames
  · intro path fault hfail
    have hcourse := r.course_perform s
    rw [hfail] at hcourse
    rcases hcourse.of_error with hindex | hfiles | he | ⟨fault', he⟩
    · rcases Web.index_error hindex with ⟨f, he⟩ | ⟨f, he⟩ <;> cases he
    · obtain ⟨f, he⟩ := FileSet.resolve_error hfiles
      cases he
    · cases he
    · rcases Failure.ofSummary_cases (Path.normal r.summaryPath) fault' with h | ⟨f, h⟩ <;>
        rw [h] at he <;> cases he

end Restyle
