import Mathlib.Data.List.Pairwise
import Restyle.Proofs.FoundAgain
import Restyle.Proofs.Substitution

/-!
# The second run

A run that is done again changes nothing. Where no old name begins a new one and no selector goes on
behind an old one, a pass is a substitution, and what was substituted asks for nothing more
(`Unextended.no_more_diffs`). The files are found again (`FileSet.mem_resolve`), each has gone
through one pass at least, and so all that is left to do is to remove the summary of the first run
(`second_run_changes_nothing`).
-/

namespace Restyle

open Script Text

/-! ## One pass is enough -/

section Content

variable {α : Type} [DecidableEq α] [Script α]

/-- No selector of a text goes on behind an old one. -/
def Unextended (index : Index) (text : List α) : Prop :=
  ∀ selector ∈ selectors text, ∀ r ∈ index.renames,
    write r.oldSelector <+: selector → write r.oldSelector = selector

instance (index : Index) (text : List α) : Decidable (Unextended index text) :=
  inferInstanceAs (Decidable (∀ selector ∈ selectors text, ∀ r ∈ index.renames,
    write r.oldSelector <+: selector → write r.oldSelector = selector))

theorem selectors_append_newline (left right : List α) :
    selectors (left ++ newline :: right) = selectors left ++ selectors right := by
  rw [selectors_eq, segments_append dot_ne_newline.symm isName_newline, List.filterMap_append,
    ← selectors_eq, List.filterMap_cons_none rfl, ← selectors_eq]

/-- Then under an index that settles no selector gets in the way of another. -/
theorem Unextended.undisturbed {index : Index} (hindex : index.Settles) {line : List α}
    (h : Unextended index line) : Undisturbed index line := by
  refine List.pairwise_of_forall_mem_list fun earlier hearlier later _ hknown => ?_
  obtain ⟨r, hfind⟩ := Option.ne_none_iff_exists'.1 hknown
  have hr := List.mem_of_find?_eq_some hfind
  obtain rfl := Index.write_of_find? hfind
  refine ⟨fun _ ⟨hpre, hne⟩ => hne (h earlier hearlier r hr hpre), fun q hq hin => ?_⟩
  obtain ⟨b, a, heq⟩ := hin
  have hq := List.mem_of_find?_eq_some hq
  rw [r.write_oldSelector, q.write_newSelector] at heq
  cases b with
  | nil => exact hindex.not_write_prefix hr hq ⟨a, (List.cons.inj heq).2⟩
  | cons c b =>
    -- The only dot of a new selector is its first symbol.
    have hname := (List.cons.inj heq).2
    exact (hindex.names q hq).2.write.dot_not_mem (by rw [← hname]; simp)

theorem Unextended.text_eq {index : Index} (hindex : index.Settles) {content : List α}
    (h : Unextended index content) (file : String) :
    (renameInContent file index content).text = substitute index content := by
  refine content_induction (motive := fun text _ text' =>
    Unextended index text → text' = substitute index text) ?_ ?_ content h
  · intro number line hline
    rw [renameInLine_eq]
    exact lineAfter_undisturbed (hline.undisturbed hindex)
  · intro left ds left' right es right' hleft hright hboth
    rw [Unextended, selectors_append_newline, List.forall_mem_append] at hboth
    rw [hleft hboth.1, hright hboth.2, substitute, substitute, substitute,
      segments_append dot_ne_newline.symm isName_newline, substitutedIn_append, substitutedIn_cons]
    rfl

/-- A segment with its new name in its place. -/
def Segment.renamed (index : Index) : Segment α → Segment α
  | .symbol c => .symbol c
  | .selector name =>
    match index.find? (dot :: name) with
    | some r => .selector (write r.new)
    | none => .selector name

theorem textOf_renamed (index : Index) (segs : List (Segment α)) :
    textOf (segs.map (Segment.renamed index)) = substitutedIn index segs := by
  rw [textOf, List.flatMap_map, substitutedIn]
  congr 1
  funext seg
  cases seg with
  | symbol c => rfl
  | selector name =>
    rw [Segment.renamed, Segment.substituted]
    cases index.find? (dot :: name) with
    | none => rfl
    | some r => exact r.write_newSelector.symm

theorem WellCut.renamed {index : Index} (hindex : index.Settles) {segs : List (Segment α)}
    (h : WellCut segs) : WellCut (segs.map (Segment.renamed index)) := by
  have hends {segs : List (Segment α)} (h : EndsName (textOf segs)) :
      EndsName (textOf (segs.map (Segment.renamed index))) := by
    have hsub : EndsName (substitutedIn index segs ++ []) :=
      endsName_substitutedIn index (by rwa [List.append_nil])
    rwa [List.append_nil, ← textOf_renamed] at hsub
  induction h with
  | nil => exact .nil
  | symbol hdot _ ih => exact .symbol (fun e => hends (hdot e)) ih
  | @selector name rest hname hrest _ ih =>
    rw [List.map_cons, Segment.renamed]
    cases hfind : index.find? (dot :: name) with
    | none => exact .selector hname (hends hrest) ih
    | some r =>
      have hnew := (hindex.names r (List.mem_of_find?_eq_some hfind)).2
      exact .selector hnew.write (hends hrest) ih

/-- What was substituted asks for nothing more. -/
theorem asked_substitute {index : Index} (hindex : index.Settles) (content : List α) :
    asked index (segments (substitute index content)) = [] := by
  rw [substitute, ← textOf_renamed, segments_textOf ((wellCut_segments content).renamed hindex),
    asked, List.filterMap_map, List.filterMap_eq_nil_iff]
  intro seg _
  cases seg with
  | symbol c => rfl
  | selector name =>
    rw [Function.comp_apply, Segment.renamed]
    cases hfind : index.find? (dot :: name) with
    | none => exact hfind
    | some r =>
      show index.find? (dot :: write r.new) = none
      have hr := List.mem_of_find?_eq_some hfind
      rw [Index.find?, List.find?_eq_none]
      intro q hq heq
      rw [decide_eq_true_eq, q.write_oldSelector] at heq
      exact hindex.not_write_prefix hq hr ⟨[], by rw [List.append_nil, (List.cons.inj heq).2]⟩

theorem diffs_of_asked_nil {index : Index} {content : List α}
    (h : asked index (segments content) = []) (file : String) :
    (renameInContent file index content).diffs = [] := by
  refine content_induction (motive := fun text diffs _ =>
    asked index (segments text) = [] → diffs = []) ?_ ?_ content h
  · intro number line hline
    rw [renameInLine_eq, hline]
    rfl
  · intro left ds left' right es right' hleft hright hboth
    rw [segments_append dot_ne_newline.symm isName_newline, asked_append, List.append_eq_nil_iff]
      at hboth
    rw [hleft hboth.1, hright hboth.2]
    rfl

/-- After one pass there is nothing more to rename. -/
theorem Unextended.no_more_diffs {index : Index} (hindex : index.Settles) {content : List α}
    (h : Unextended index content) (file : String) {n : Nat} (hn : 0 < n) (file' : String) :
    (renameInContent file' index (contentAfter file index n content)).diffs = [] := by
  obtain ⟨n, rfl⟩ := Nat.exists_eq_succ_of_ne_zero (Nat.ne_of_gt hn)
  have hnone (file : String) := diffs_of_asked_nil (asked_substitute hindex content) file
  rw [contentAfter, h.text_eq hindex, contentAfter_of_no_diffs (hnone file)]
  exact hnone file'

end Content

/-- Whether selectors go on behind others is the same among octets. -/
theorem Unextended.toOctets {index : Index} {text : List Glyph} (h : Unextended index text) :
    Unextended index (Glyph.toOctets text) := by
  intro selector hmem r hr hpre
  rw [selectors_eq, segments_toOctets, List.mem_filterMap] at hmem
  obtain ⟨octets, hoctets, hselector⟩ := hmem
  obtain ⟨seg, hseg, hin⟩ := List.mem_flatMap.1 hoctets
  cases seg with
  | symbol g =>
    obtain ⟨b, -, rfl⟩ := List.mem_map.1 hin
    cases hselector
  | selector name =>
    obtain rfl := List.mem_singleton.1 hin
    obtain rfl : dot :: Glyph.toOctets name = selector := Option.some.inj hselector
    have hname := (wellCut_segments text).isName hseg
    rw [r.write_oldSelector, List.cons_prefix_cons] at hpre
    -- An old name that begins a name in writing begins it, for it has only name symbols then.
    have hold : ∀ g ∈ r.old, isName g = true :=
      isName_of_write fun b hb => hname.write.2 b (hpre.2.mem hb)
    have hglyphs : r.oldSelector <+: dot :: name :=
      (List.prefix_cons_inj _).2 (prefix_of_write hold hpre.2)
    have hin : dot :: name ∈ selectors text := by
      rw [selectors_eq]
      exact List.mem_filterMap.2 ⟨_, hseg, rfl⟩
    have hsame := h _ hin r hr <| by
      rw [write_glyph]
      exact hglyphs
    rw [write_glyph] at hsame
    rw [hsame]
    exact write_dot_cons name

/-! ## Runs -/

/-- Where nothing is to be renamed in any file, there are no diffs. -/
theorem Renamings.no_diffs {index : Index} {paths : List String} {t tree : Tree}
    {diffs : List Diff} (h : Renamings index paths t diffs tree)
    (hnone : ∀ path ∈ paths, ∀ l content, t.walk path = .ok (.file l content) →
      (renameInContent path index content).diffs = []) : diffs = [] := by
  induction h with
  | nil => rfl
  | @cons path rest t t' t'' ds es hat _ ih =>
    rw [List.forall_mem_cons] at hnone
    have hfirst : ds = [] ∧ t' = t := by
      rcases renameAt_ok_cases hat with ⟨l, content, hw, rfl, rfl⟩ | ⟨-, rfl, rfl⟩
      · have hds := hnone.1 l content hw
        rw [text_of_no_diffs hds, Tree.place_self (Tree.node?_of_walk hw)]
        exact ⟨hds, rfl⟩
      · exact ⟨rfl, rfl⟩
    obtain ⟨rfl, rfl⟩ := hfirst
    rw [ih hnone.2]
    rfl

theorem Tree.location?_ne_of_not_lists {t : Tree} {paths : List String} {path other : String}
    (h : ¬ t.Lists paths path) (hmem : other ∈ paths) (hfile : t.isFile other = true) :
    t.location? other ≠ t.location? path := by
  obtain ⟨l, content, hl, -⟩ := isFile_iff.1 hfile
  exact fun e => h ⟨l, e.symm.trans hl, other, hmem, hl⟩

/-- A run keeps all directories, and nothing is made or removed save for the summary. -/
theorem Run.Course.alike {r : Run} {web : Web} {t tree : Tree} {summary : Summary}
    (h : r.Course web t (.ok summary) tree) :
    t.Alike (t.location? (Path.normal r.summaryPath)) tree := by
  obtain ⟨index, files, renamed, -, -, hall, hreport⟩ := h.of_ok
  have hsame := hall.sameDirectories
  obtain ⟨hdirs, hothers⟩ := Summary.reportAt_others hreport
  refine ⟨hsame.trans hdirs, fun l hl => ?_⟩
  rw [hothers l (by rwa [Tree.location?_eq hsame]), hall.node?_eq, Option.isSome_map]

/-- A file that a run has gone through holds what some passes have made of it. -/
theorem Run.Course.passed {r : Run} {web : Web} {t tree : Tree} {summary : Summary}
    (h : r.Course web t (.ok summary) tree) {index : Index} {files : List String}
    (hindex : web.index r.followRedirects r.url = .ok index)
    (hfiles : FileSet.resolve t r.input r.endings = .ok files) {path : String} (hmem : path ∈ files)
    (hpath : t.location? path ≠ t.location? (Path.normal r.summaryPath)) {l : Location}
    {now : Octets} (hw : tree.walk path = .ok (.file l now)) :
    ∃ old n, t.read path = .ok old ∧ 0 < n ∧ now = contentAfter "" index n old := by
  have hloc := Tree.location_mono h.alike.directories.symm (Tree.location_of_walk_file hw)
  obtain ⟨index', files', renamed, hindex', hfiles', hall, hreport⟩ := h.of_ok
  obtain rfl := Except.ok.inj (hindex'.symm.trans hindex)
  obtain rfl := Except.ok.inj (hfiles'.symm.trans hfiles)
  have hpos : 0 < t.timesListed files' l :=
    List.countP_pos_iff.2 ⟨path, hmem, by rw [hloc]; simp⟩
  have hnode := Tree.node?_of_walk hw
  rw [(Summary.reportAt_others hreport).2 l fun e => ?_, hall.node?_eq] at hnode
  · cases hold : t.node? l with
    | none =>
      rw [hold] at hnode
      cases hnode
    | some node =>
      rw [hold] at hnode
      cases node with
      | directory | device => cases hnode
      | file old =>
        exact ⟨old, _, Tree.read_of_location hloc hold, hpos,
          (Node.file.inj (Option.some.inj hnode)).symm⟩
  · rw [Tree.location?_eq hall.sameDirectories] at e
    exact hpath (hloc.trans e.symm)

/-- **Second run.** Under an index that settles, with no selector in the files that goes on behind an
old one and with the summary at none of the files, a second run in what the first one left changes
nothing. It leaves every file as it is, and no file at the summary path. -/
theorem second_run_changes_nothing (r : Run) (s s' : Session) (index : Index)
    (files files' : List String) (first second : Summary)
    (hfirst : (r.perform.outcome s).1 = .ok first)
    (hsecond : (r.perform.outcome s').1 = .ok second)
    (htree : s'.tree = (r.perform.outcome s).2.tree) (hweb : s'.web = s.web)
    (hindex : ((Action.fetchIndex r.url r.followRedirects).outcome s).1 = .ok index)
    (hfiles : ((Action.resolveFiles r.input r.endings).outcome s).1 = .ok files)
    (hfiles' : ((Action.resolveFiles r.input r.endings).outcome s').1 = .ok files')
    (hsettles : index.Settles)
    (hselectors : ∀ path ∈ files, ∀ content, s.tree.read path = .ok content →
      Unextended index (Glyph.ofOctets content))
    (hsummary : ¬ s.tree.Lists files (Path.normal r.summaryPath))
    (hsummary' : ¬ s'.tree.Lists files' (Path.normal r.summaryPath)) :
    let after := (r.perform.outcome s').2.tree
    second.changes = [] ∧
      (∀ path, path ∈ files ∨ path ∈ files' → after.read path = s'.tree.read path) ∧
      after.isFile (Path.normal r.summaryPath) = false := by
  intro after
  have hcourse := r.course_perform s
  have hcourse' := r.course_perform s'
  rw [hfirst, ← htree] at hcourse
  rw [hsecond, hweb] at hcourse'
  rw [(Action.yields_fetchIndex s.web s.tree r.url r.followRedirects).outcome_eq.1] at hindex
  rw [(Action.yields_resolveFiles s.web s.tree r.input r.endings).outcome_eq.1] at hfiles
  rw [(Action.yields_resolveFiles s'.web s'.tree r.input r.endings).outcome_eq.1] at hfiles'
  -- The same files are found again.
  have hother : ∀ path ∈ files, s.tree.location? path ≠
      s.tree.location? (Path.normal r.summaryPath) :=
    fun path hmem => Tree.location?_ne_of_not_lists hsummary hmem
      (FileSet.isFile_of_mem_resolve hfiles hmem)
  have hother' : ∀ path ∈ files', s'.tree.location? path ≠
      s'.tree.location? (Path.normal r.summaryPath) :=
    fun path hmem => Tree.location?_ne_of_not_lists hsummary' hmem
      (FileSet.isFile_of_mem_resolve hfiles' hmem)
  have hfound (path : String) : path ∈ files' ↔ path ∈ files :=
    FileSet.mem_resolve hcourse.alike hfiles hfiles' hother
      (by rwa [Tree.location?_eq hcourse.alike.directories (Path.normal _)] at hother')
  -- Each of them has gone through a pass, after which there is nothing to rename.
  have hnone : second.changes = [] := by
    obtain ⟨index', again, renamed, hindex', hagain, hall, -⟩ := hcourse'.of_ok
    obtain rfl := Except.ok.inj (hindex'.symm.trans hindex)
    obtain rfl := Except.ok.inj (hagain.symm.trans hfiles')
    refine hall.no_diffs fun path hmem l now hw => ?_
    have hin := (hfound path).1 hmem
    obtain ⟨old, n, hread, hn, rfl⟩ := hcourse.passed hindex hfiles hin (hother path hin) hw
    have hselector := (hselectors path hin old hread).toOctets
    rw [toOctets_ofOctets] at hselector
    exact hselector.no_more_diffs hsettles "" hn path
  obtain ⟨hothers, hgone⟩ := hcourse'.of_no_changes hnone
  refine ⟨hnone, fun path hmem => ?_, hgone⟩
  have hin : path ∈ files' := hmem.elim (hfound path).2 id
  obtain ⟨l, content, hl, hnode⟩ := Tree.isFile_iff.1 (FileSet.isFile_of_mem_resolve hfiles' hin)
  have hnode' : after.node? l = some (.file content) := by
    rw [hothers l fun e => hother' path hin (hl.trans e.symm), hnode]
  rw [Tree.read_of_location hl hnode,
    Tree.read_of_location (Tree.location_mono hcourse'.alike.directories hl) hnode']

/-- A file that is listed twice. -/
theorem second_run_changes_nothing_listed_twice :
    let t := (Tree.empty.place ["css"] .directory).place ["css", "m.css"]
      (.file (octetsOf ".a_b .a_b.x\né.c_d .a_b"))
    let web := Web.ofTable
      [("http://h.test/c", .answer ⟨200, octetsOf "a_b\nc-d\nc_d\ny\n", none, none⟩)]
    let r : Run := { url := "http://h.test/c", input := "css,*/*.css" }
    let s := Session.start t [] web
    let s' := (r.perform.outcome s).2
    ∃ first second, (r.perform.outcome s).1 = .ok first ∧ first.changes.length = 4 ∧
      s'.tree.isFile "changes-summary.json" = true ∧
      (r.perform.outcome s').1 = .ok second ∧ second.changes = [] ∧
      (r.perform.outcome s').2.tree.isFile "changes-summary.json" = false ∧
      (r.perform.outcome s').2.tree.read "css/m.css" = s'.tree.read "css/m.css" := by
  intro t web r s s'
  -- The kernel evaluates both runs; what they come to is compared where it can be.
  have hok {β : Type} (x : Except Failure β) (p : β → Bool)
      (h : (match x with | .ok b => p b | .error _ => false) = true) :
      ∃ b, x = .ok b ∧ p b = true := by
    cases x with
    | error e => cases h
    | ok b => exact ⟨b, rfl, h⟩
  obtain ⟨first, hfirst, hlength⟩ := hok (r.perform.outcome s).1
    (fun first => first.changes.length = 4) (by decide +kernel)
  obtain ⟨second, hsecond, -⟩ := hok (r.perform.outcome s').1 (fun _ => true) (by decide +kernel)
  obtain ⟨index, hindex, hrenames⟩ :=
    hok ((Action.fetchIndex r.url r.followRedirects).outcome s).1
      (fun index => index.renames = [⟨"a_b", "c-d"⟩, ⟨"c_d", "y"⟩]) (by decide +kernel)
  obtain ⟨files, hfiles, hlisted⟩ := hok ((Action.resolveFiles r.input r.endings).outcome s).1
    (fun files => files = ["css/m.css", "css/m.css"]) (by decide +kernel)
  obtain ⟨files', hfiles', hlisted'⟩ := hok ((Action.resolveFiles r.input r.endings).outcome s').1
    (fun files => files = ["css/m.css", "css/m.css"]) (by decide +kernel)
  obtain rfl := of_decide_eq_true hlisted
  obtain rfl := of_decide_eq_true hlisted'
  have hrenames := of_decide_eq_true hrenames
  have hsettles : index.Settles := by
    constructor
    · rw [hrenames]
      decide +kernel
    · rw [hrenames]
      decide +kernel
  have hread : s.tree.read "css/m.css" = .ok (octetsOf ".a_b .a_b.x\né.c_d .a_b") := by
    decide +kernel
  have hselectors : ∀ path ∈ ["css/m.css", "css/m.css"], ∀ content,
      s.tree.read path = .ok content → Unextended index (Glyph.ofOctets content) := by
    intro path hmem content hcontent
    obtain rfl : path = "css/m.css" := by simpa using hmem
    obtain rfl := Except.ok.inj (hread.symm.trans hcontent)
    rw [Unextended, hrenames]
    decide +kernel
  obtain ⟨hnone, hsame, hgone⟩ := second_run_changes_nothing r s s' index _ _ first second hfirst
    hsecond rfl (r.web_perform s) hindex hfiles hfiles' hsettles hselectors (by decide +kernel)
    (by decide +kernel)
  have hnormal : Path.normal r.summaryPath = "changes-summary.json" := by decide +kernel
  rw [hnormal] at hgone
  exact ⟨first, second, hfirst, of_decide_eq_true hlength, by decide +kernel, hsecond, hnone, hgone,
    hsame "css/m.css" (.inl (by simp))⟩

end Restyle
