import Restyle.Proofs.ChangeLists
import Restyle.Proofs.Cycles
import Restyle.Proofs.Reported
import Restyle.Proofs.Resolved

/-!
# Files that are visited again

A list of paths may lead to one file several times. The visits are looked at one by one: a visit
without diffs says that the file is quiet (`quiet_iff_of_renameAt`), and a quiet file stays quiet
whatever is renamed elsewhere (`Tree.Quiet.renameAt`). So a file that is modified at all is modified
at the first visit by its path, and the files of a summary stand in the order of the paths
(`Renamings.sublist`).
-/

namespace Restyle

open Script Text

/-! ## First occurrences -/

theorem nodup_firstOccurrences {β : Type} [DecidableEq β] (seen xs : List β) :
    (firstOccurrences seen xs).Nodup := by
  induction xs generalizing seen with
  | nil => exact List.nodup_nil
  | cons x xs ih =>
    unfold firstOccurrences
    split
    · exact ih seen
    · refine List.nodup_cons.2 ⟨?_, ih (x :: seen)⟩
      intro hx
      exact (mem_firstOccurrences.1 hx).2 List.mem_cons_self

/-- A text that stands several times in a row counts once. -/
theorem firstOccurrences_replicate_append {x : String} {seen : List String} {n : Nat} (hn : n ≠ 0)
    (xs : List String) : firstOccurrences seen (List.replicate n x ++ xs) =
      firstOccurrences seen (x :: xs) := by
  have hseen (n : Nat) {seen : List String} (hx : x ∈ seen) :
      firstOccurrences seen (List.replicate n x ++ xs) = firstOccurrences seen xs := by
    induction n with
    | zero => rfl
    | succ n ih => rw [List.replicate_succ, List.cons_append, firstOccurrences, if_pos hx, ih]
  obtain ⟨n, rfl⟩ := Nat.exists_eq_succ_of_ne_zero hn
  rw [List.replicate_succ, List.cons_append, firstOccurrences, firstOccurrences]
  split
  · rename_i hx
    exact hseen n hx
  · rw [hseen n List.mem_cons_self]

/-! ## Quiet files -/

/-- Whether there are diffs does not depend on the file that a content is in. -/
theorem diffs_nil_of_other_file {α : Type} [DecidableEq α] [Script α] {file : String}
    {index : Index} {content : List α} (h : (renameInContent file index content).diffs = [])
    (other : String) :
    (renameInContent other index content).diffs = [] := by
  rw [diffs_renameInContent, List.filterMap_eq_nil_iff] at h ⊢
  intro m hm
  have hnone := h m hm
  rw [Match.diff?, Option.map_eq_none_iff] at hnone ⊢
  exact hnone

/-- There is nothing to rename in the file that a path leads to. -/
def Tree.Quiet (index : Index) (t : Tree) (path : String) : Prop :=
  ∀ l content, t.location? path = some l → t.node? l = some (.file content) →
    (renameInContent path index content).diffs = []

variable {index : Index} {t t' tree : Tree} {path other : String} {diffs : List Diff}

theorem Tree.Quiet.of_location (h : t.Quiet index path)
    (hother : t.location? other = t.location? path) : t.Quiet index other := by
  intro l content hl hnode
  exact diffs_nil_of_other_file (h l content (hother ▸ hl) hnode) other

/-- A visit has no diffs if and only if the file is quiet. -/
theorem quiet_iff_of_renameAt (h : Action.renameAt index path t = (.ok diffs, tree)) :
    t.Quiet index path ↔ diffs = [] := by
  rcases renameAt_ok_cases h with ⟨l, content, hw, rfl, -⟩ | ⟨hw, rfl, -⟩
  · have hloc := Tree.location_of_walk_file hw
    have hnode := Tree.node?_of_walk hw
    constructor
    · intro hquiet
      exact hquiet l content hloc hnode
    · intro hnone m old hm hold
      obtain rfl : l = m := Option.some.inj (hloc.symm.trans hm)
      rw [hnode] at hold
      cases hold
      exact hnone
  · refine ⟨fun _ => rfl, fun _ m old hm _ => ?_⟩
    rw [Tree.location?, hw] at hm
    cases hm

/-- A quiet file stays quiet whatever path is visited. -/
theorem Tree.Quiet.renameAt (hquiet : t.Quiet index other)
    (h : Action.renameAt index path t = (.ok diffs, tree)) : tree.Quiet index other := by
  intro l content hl hnode
  rw [Tree.location?_eq (sameDirectories_renameAt h)] at hl
  rw [node?_renameAt h l] at hnode
  cases hold : t.node? l with
  | none =>
    rw [hold] at hnode
    cases hnode
  | some node =>
    rw [hold] at hnode
    cases node with
    | directory | device => cases hnode
    | file old =>
      have hnone := hquiet l old hl hold
      -- However often a quiet file is gone through, it holds what it held.
      have hsame := contentAfter_of_no_diffs (diffs_nil_of_other_file hnone "")
      obtain rfl := Node.file.inj (Option.some.inj hnode)
      rw [hsame]
      exact hnone

/-! ## Visits one by one -/

/-- Renaming in one file after the other, with the diffs of each visit by themselves. -/
inductive Visits (index : Index) : List String → Tree → List (List Diff) → Tree → Prop
  | nil (t : Tree) : Visits index [] t [] t
  | cons {path : String} {rest : List String} {t t' t'' : Tree} {ds : List Diff}
      {others : List (List Diff)} : Action.renameAt index path t = (.ok ds, t') →
      Visits index rest t' others t'' → Visits index (path :: rest) t (ds :: others) t''

theorem Renamings.exists_visits {paths : List String} (h : Renamings index paths t diffs tree) :
    ∃ visits, Visits index paths t visits tree ∧ visits.flatten = diffs := by
  induction h with
  | nil t => exact ⟨[], .nil t, rfl⟩
  | @cons path rest t t' t'' ds es hat _ ih =>
    obtain ⟨others, hrest, rfl⟩ := ih
    exact ⟨ds :: others, .cons hat hrest, rfl⟩

namespace Visits

variable {paths : List String} {visits : List (List Diff)}

theorem length_eq (h : Visits index paths t visits tree) : visits.length = paths.length := by
  induction h with
  | nil => rfl
  | cons _ _ ih => rw [List.length_cons, List.length_cons, ih]

/-- Every visit comes after those of the paths before it. -/
theorem exists_renameAt (h : Visits index paths t visits tree) {k : Nat}
    (hk : paths[k]? = some path) : ∃ before now ds after, visits[k]? = some ds ∧
      Renamings index (paths.take k) t before now ∧
      Action.renameAt index path now = (.ok ds, after) := by
  induction h generalizing k with
  | nil => cases hk
  | @cons first rest t t' t'' ds others hat hrest ih =>
    cases k with
    | zero =>
      obtain rfl : first = path := Option.some.inj hk
      exact ⟨[], t, ds, t', rfl, .nil t, hat⟩
    | succ k =>
      obtain ⟨before, now, es, after, hvisit, hbefore, hnow⟩ := ih hk
      exact ⟨ds ++ before, now, es, after, hvisit, .cons hat hbefore, hnow⟩

/-- No visit of a quiet file has diffs. -/
theorem nil_of_quiet (h : Visits index paths t visits tree) (hquiet : t.Quiet index other)
    {k : Nat} (hk : paths[k]? = some path) (hpath : t.location? path = t.location? other) :
    visits[k]? = some [] := by
  induction h generalizing k with
  | nil => cases hk
  | @cons first rest t t' t'' ds others hat _ ih =>
    cases k with
    | zero =>
      obtain rfl : first = path := Option.some.inj hk
      obtain rfl := (quiet_iff_of_renameAt hat).1 (hquiet.of_location hpath)
      rfl
    | succ k =>
      have hsame := sameDirectories_renameAt hat
      have hpath' : t'.location? path = t'.location? other := by
        rw [Tree.location?_eq hsame, Tree.location?_eq hsame, hpath]
      exact ih (hquiet.renameAt hat) hk hpath'

/-- A visit without diffs makes all later ones of the same file go without. -/
theorem nil_of_nil (h : Visits index paths t visits tree) {i j : Nat} (hij : i ≤ j)
    (hi : paths[i]? = some other) (hj : paths[j]? = some path)
    (hsame : t.location? path = t.location? other) (hnone : visits[i]? = some []) :
    visits[j]? = some [] := by
  induction h generalizing i j with
  | nil => cases hi
  | @cons first rest t t' t'' ds others hat hrest ih =>
    cases i with
    | zero =>
      obtain rfl : first = other := Option.some.inj hi
      obtain rfl : ds = [] := Option.some.inj hnone
      have hquiet := (quiet_iff_of_renameAt hat).2 rfl
      exact (Visits.cons hat hrest).nil_of_quiet hquiet hj hsame
    | succ i =>
      obtain ⟨j, rfl⟩ : ∃ k, j = k + 1 := ⟨j - 1, by omega⟩
      have hdirs := sameDirectories_renameAt hat
      have hsame' : t'.location? path = t'.location? other := by
        rw [Tree.location?_eq hdirs, Tree.location?_eq hdirs, hsame]
      exact ih (Nat.le_of_succ_le_succ hij) hi hj hsame' hnone

end Visits

/-! ## Files in order -/

/-- The diffs of a visit name the path that it was made by. -/
theorem map_file_of_renameAt (h : Action.renameAt index path t = (.ok diffs, tree)) :
    diffs.map Diff.file = List.replicate diffs.length path := by
  rw [List.eq_replicate_iff, List.length_map]
  refine ⟨rfl, fun file hfile => ?_⟩
  obtain ⟨d, hd, rfl⟩ := List.mem_map.1 hfile
  rcases renameAt_ok_cases h with ⟨l, content, -, rfl, -⟩ | ⟨-, rfl, -⟩
  · obtain ⟨r, -, number, rfl⟩ := exists_rename_of_mem_diffs hd
    rfl
  · cases hd

/-- The files with diffs stand in the order in which their paths come first, as long as every path
that came before without diffs is quiet. -/
theorem Renamings.sublist {paths : List String} (h : Renamings index paths t diffs tree)
    {named seen : List String} (hnamed : ∀ x ∈ named, x ∈ seen)
    (hquiet : ∀ x ∈ seen, x ∉ named → t.Quiet index x) :
    (firstOccurrences named (diffs.map Diff.file)).Sublist (firstOccurrences seen paths) := by
  induction h generalizing named seen with
  | nil => exact List.Sublist.refl []
  | @cons path rest t t' t'' ds es hat _ ih =>
    have hquiet' : ∀ x ∈ seen, x ∉ named → t'.Quiet index x :=
      fun x hx hxn => (hquiet x hx hxn).renameAt hat
    rw [List.map_append, map_file_of_renameAt hat]
    by_cases hnone : ds = []
    · -- The path is quiet, so it may be counted among those that came before.
      subst hnone
      have hpath : t'.Quiet index path := ((quiet_iff_of_renameAt hat).2 rfl).renameAt hat
      rw [List.length_nil, List.replicate_zero, List.nil_append, firstOccurrences]
      split
      · exact ih hnamed hquiet'
      · refine List.Sublist.cons path (ih ?_ ?_)
        · exact fun x hx => List.mem_cons_of_mem _ (hnamed x hx)
        · intro x hx hxn
          rcases List.mem_cons.1 hx with rfl | hx
          · exact hpath
          · exact hquiet' x hx hxn
    · have hlength : ds.length ≠ 0 := fun e => hnone (List.eq_nil_of_length_eq_zero e)
      rw [firstOccurrences_replicate_append hlength, firstOccurrences, firstOccurrences]
      by_cases hseen : path ∈ seen
      · -- It came before, and not without diffs.
        have hmem : path ∈ named := by
          by_contra hno
          exact hnone ((quiet_iff_of_renameAt hat).1 (hquiet path hseen hno))
        rw [if_pos hmem, if_pos hseen]
        exact ih hnamed hquiet'
      · rw [if_neg fun hmem => hseen (hnamed path hmem), if_neg hseen]
        refine (ih ?_ ?_).cons_cons path
        · exact List.cons_subset_cons path hnamed
        · intro x hx hxn
          rw [List.mem_cons, not_or] at hxn
          exact hquiet' x ((List.mem_cons.1 hx).resolve_left hxn.1) hxn.2

/-! ## Summaries of runs -/

/-- The visit of the `k`-th path, after those of the paths before it. -/
def Action.visit (index : Index) (paths : List String) (k : Nat) : Action (List Diff) := do
  let _ ← renameInFiles index (paths.take k)
  match paths[k]? with
  | some path => renameInFile index path
  | none => return []

theorem Visits.outcome_visit {paths : List String} {visits : List (List Diff)} {s : Session}
    (h : Visits index paths s.tree visits tree) {k : Nat} (hk : k < paths.length) :
    ∃ ds, visits[k]? = some ds ∧ ((Action.visit index paths k).outcome s).1 = .ok ds ∧
      ∀ d ∈ ds, paths[k]? = some d.file := by
  have hpath := List.getElem?_eq_getElem hk
  obtain ⟨before, now, ds, after, hvisit, hbefore, hat⟩ := h.exists_renameAt hpath
  refine ⟨ds, hvisit, ?_, fun d hd => ?_⟩
  · have hlast := Action.yields_renameInFile s.web now index paths[k]
    rw [hat] at hlast
    have hall : (Action.visit index paths k).Yields s.web s.tree (.ok ds) after := by
      unfold Action.visit
      rw [hpath]
      exact (hbefore.yields s.web).bind hlast
    exact hall.outcome_eq.1
  · have hfile : d.file ∈ List.replicate ds.length paths[k] := by
      rw [← map_file_of_renameAt hat]
      exact List.mem_map_of_mem hd
    rw [hpath, List.eq_of_mem_replicate hfile]

/-- **Summaries.** Renaming goes through with every list of files if the new names can be written. The
summary of what it gives counts the diffs, keeps them as they are, and lists the files that they name,
each once, in the order of their first diffs; and this is the order in which the paths come first. A file
that was visited without diffs, by whatever path, goes without diffs at every later visit. -/
theorem summary_in_order_of_paths (index : Index) (paths : List String) (s : Session) :
    ((∀ path ∈ paths, s.tree.isFile path = true) →
      (∀ r ∈ index.renames, Glyph.encodes r.new = true) →
      ∃ diffs, ((Action.renameInFiles index paths).outcome s).1 = .ok diffs) ∧
    ∀ diffs, ((Action.renameInFiles index paths).outcome s).1 = .ok diffs →
      let summary := Summary.ofDiffs diffs
      summary.total = summary.changes.length ∧ summary.changes = diffs ∧
      summary.modified.Nodup ∧
      (∀ file, file ∈ summary.modified ↔ ∃ d ∈ summary.changes, d.file = file) ∧
      (summary.modified.Pairwise fun x y => ∀ (j : Nat) e, summary.changes[j]? = some e →
        e.file = y → ∃ i d, i < j ∧ summary.changes[i]? = some d ∧ d.file = x) ∧
      summary.modified.Sublist (firstOccurrences [] paths) ∧
      ∃ visits : List (List Diff), visits.length = paths.length ∧ visits.flatten = diffs ∧
        (∀ k < paths.length, ∃ ds, visits[k]? = some ds ∧
          ((Action.visit index paths k).outcome s).1 = .ok ds ∧
          ∀ d ∈ ds, paths[k]? = some d.file) ∧
        ∀ (i j : Nat) x y, i ≤ j → paths[i]? = some x → paths[j]? = some y →
          s.tree.location? y = s.tree.location? x → visits[i]? = some [] →
            visits[j]? = some [] := by
  refine ⟨fun hfiles hnames => ?_, fun diffs hdiffs => ?_⟩
  · obtain ⟨diffs, tree, hall⟩ := exists_renamings hnames hfiles
    exact ⟨diffs, (hall.yields s.web).outcome_eq.1⟩
  intro summary
  have hall : Renamings index paths s.tree diffs
      ((Action.renameInFiles index paths).outcome s).2.tree :=
    Renamings.of_outcome (Prod.ext hdiffs rfl)
  obtain ⟨visits, hvisits, hflatten⟩ := hall.exists_visits
  refine ⟨rfl, rfl, nodup_firstOccurrences _ _, fun file => Summary.mem_modified, ?_, ?_, visits,
    hvisits.length_eq, hflatten, fun k hk => hvisits.outcome_visit hk, ?_⟩
  · have horder := ChangeList.pairwise_firstOccurrences (p := fun _ => true) (f := Diff.file)
      diffs []
    rw [List.filter_true] at horder
    refine horder.imp fun {x y} hxy j e hj he => ?_
    obtain ⟨i, d, hlt, hi, -, hd⟩ := hxy j e hj rfl he
    exact ⟨i, d, hlt, hi, hd⟩
  · have hnamed : ∀ x ∈ ([] : List String), x ∈ ([] : List String) := fun x hx => hx
    exact hall.sublist hnamed (by simp)
  · intro i j x y hij hi hj hsame hnone
    exact hvisits.nil_of_nil hij hi hj hsame hnone

/-- Two files, of which one has two paths, and one that holds nothing to rename. -/
theorem summary_in_order_of_paths_aliased :
    let t := ((Tree.empty.place ["a.css"] (.file (octetsOf ".a_b .a_b"))).place ["b.css"]
      (.file (octetsOf ".a_b"))).place ["q.css"] (.file (octetsOf ".q"))
    let s := Session.start t [] Web.unreachable
    let index := Index.ofList [⟨"a_b", "c-d"⟩]
    let paths := ["q.css", "./b.css", "a.css", "b.css", "a.css", "q.css"]
    ∃ diffs, ((Action.renameInFiles index paths).outcome s).1 = .ok diffs ∧ diffs.length = 3 ∧
      (Summary.ofDiffs diffs).modified = ["./b.css", "a.css"] ∧
      (Summary.ofDiffs diffs).modified.Sublist (firstOccurrences [] paths) ∧
      ∃ visits : List (List Diff), visits.length = 6 ∧ visits.flatten = diffs := by
  intro t s index paths
  obtain ⟨hall, hsummary⟩ := summary_in_order_of_paths index paths s
  obtain ⟨diffs, hdiffs⟩ := hall (by decide +kernel) (by decide +kernel)
  obtain ⟨-, -, -, -, -, hsublist, visits, hvisits, hflatten, -⟩ := hsummary diffs hdiffs
  -- The kernel renames in the files; what comes of it is compared where it can be.
  have htest : gives (fun diffs => diffs.length = 3 ∧
      (Summary.ofDiffs diffs).modified = ["./b.css", "a.css"])
        ((Action.renameInFiles index paths).outcome s).1 = true := by decide +kernel
  obtain ⟨renamed, hrenamed, hpass⟩ := exists_of_gives htest
  obtain rfl := Except.ok.inj (hdiffs.symm.trans hrenamed)
  obtain ⟨hlength, hmodified⟩ := of_decide_eq_true hpass
  exact ⟨diffs, hdiffs, hlength, hmodified, hsublist, visits, hvisits, hflatten⟩

end Restyle
