import Restyle.Proofs.Renamings

/-!
# The course of a run

What a run does depends on the tree and the web alone. `Action.Yields` says what an action comes to
in any session with that tree and that web, and keeps quiet of what is reported on the way; stages
are put together by `Yields.bind`.

`Run.Course` lists the five ways in which a run can end, with all that was done before, and every run
ends in one of them (`Run.exists_course`).
-/

namespace Restyle

open Text

/-- A session with perhaps another tree, and with more that was sent or reported. -/
structure Session.Continues (s s' : Session) : Prop where
  environment : s'.environment = s.environment
  web : s'.web = s.web
  shown : s'.shown = s.shown
  printed : s'.printed = s.printed

theorem Session.continues_later (s : Session) (tree : Tree) (more : List String) :
    s.Continues (s.later tree more) :=
  ⟨rfl, rfl, rfl, rfl⟩

theorem Session.Continues.trans {s s' s'' : Session} (h : s.Continues s') (h' : s'.Continues s'') :
    s.Continues s'' where
  environment := h'.environment.trans h.environment
  web := h'.web.trans h.web
  shown := h'.shown.trans h.shown
  printed := h'.printed.trans h.printed

namespace Action

variable {β γ : Type} {web : Web} {t t' t'' : Tree}

/-! ## What actions yield -/

/-- In every session with a web and a tree an action comes to a result and leaves a tree. Besides it
only sends and reports. -/
def Yields (a : Action β) (web : Web) (t : Tree) (result : Except Failure β) (tree : Tree) : Prop :=
  ∀ s : Session, s.web = web → s.tree = t →
    ∃ s', a.outcome s = (result, s') ∧ s'.tree = tree ∧ s.Continues s'

theorem Yields.bind {a : Action β} {f : β → Action γ} {b : β} {result : Except Failure γ}
    (ha : a.Yields web t (.ok b) t') (hf : (f b).Yields web t' result t'') :
    (a >>= f).Yields web t result t'' := by
  intro s hweb ht
  obtain ⟨s', hout, ht', hs⟩ := ha s hweb ht
  obtain ⟨s'', hout', ht'', hs'⟩ := hf s' (hs.web.trans hweb) ht'
  exact ⟨s'', (outcome_bind_ok hout).trans hout', ht'', hs.trans hs'⟩

theorem Yields.bind_error {a : Action β} {f : β → Action γ} {e : Failure}
    (ha : a.Yields web t (.error e) t') : (a >>= f).Yields web t (.error e) t' := by
  intro s hweb ht
  obtain ⟨s', hout, ht', hs⟩ := ha s hweb ht
  exact ⟨s', outcome_bind_error hout, ht', hs⟩

theorem yields_pure (b : β) : (pure b : Action β).Yields web t (.ok b) t :=
  fun s _ ht => ⟨s, outcome_pure b s, ht, rfl, rfl, rfl, rfl⟩

theorem yields_throw (e : Failure) : (throw e : Action β).Yields web t (.error e) t :=
  fun s _ ht => ⟨s, rfl, ht, rfl, rfl, rfl, rfl⟩

theorem yields_observe (f : Tree → β) : (observe f).Yields web t (.ok (f t)) t :=
  fun s _ ht => ⟨s, by rw [outcome_observe, ht], ht, rfl, rfl, rfl, rfl⟩

theorem yields_ofExcept {ε : Type} (explain : ε → Failure) (x : Except ε β) :
    (ofExcept explain x).Yields web t (x.mapError explain) t := by
  cases x with
  | ok b => exact yields_pure b
  | error e => exact yields_throw (explain e)

theorem yields_log (level : Level) (text : String) : (log level text).Yields web t (.ok ()) t := by
  intro s _ ht
  obtain ⟨more, hout⟩ := outcome_log level text s
  exact ⟨s.later s.tree more, hout, ht, s.continues_later _ _⟩

/-- What was reported before the rest of an action does not matter to it. -/
theorem Yields.after_log {level : Level} {text : String} {a : Action β}
    {result : Except Failure β} (ha : a.Yields web t result t') :
    (do log level text; a).Yields web t result t' :=
  (yields_log level text).bind ha

theorem yields_modify {f : Session → Session} (htree : ∀ s : Session, (f s).tree = s.tree)
    (hcont : ∀ s : Session, s.Continues (f s)) : (modify f : Action Unit).Yields web t (.ok ()) t :=
  fun s _ ht => ⟨f s, rfl, (htree s).trans ht, hcont s⟩

theorem yields_setTree (tree : Tree) :
    (modify fun s => { s with tree := tree } : Action Unit).Yields web t (.ok ()) tree :=
  fun _ _ _ => ⟨_, rfl, rfl, rfl, rfl, rfl, rfl⟩

/-- The answer of the web is the same in all these sessions. -/
theorem Yields.bind_get {f : Session → Action β} {result : Except Failure β}
    (hf : ∀ s : Session, s.web = web → (f s).Yields web t result t') :
    (get >>= f).Yields web t result t' := by
  intro s hweb ht
  obtain ⟨s', hout, ht', hs⟩ := hf s hweb s hweb ht
  exact ⟨s', (outcome_bind_ok (outcome_get s)).trans hout, ht', hs⟩

theorem yields_mapM {g : β → Except Failure γ} {f : β → Action γ}
    (hf : ∀ b, (f b).Yields web t (g b) t) (bs : List β) :
    (bs.mapM f).Yields web t (bs.mapM g) t := by
  induction bs with
  | nil => exact yields_pure []
  | cons b bs ih =>
    rw [List.mapM_cons, List.mapM_cons]
    have hb := hf b
    cases hg : g b with
    | error e =>
      rw [hg] at hb
      exact hb.bind_error
    | ok c =>
      rw [hg] at hb
      refine hb.bind ?_
      cases hgs : bs.mapM g with
      | error e =>
        rw [hgs] at ih
        exact ih.bind_error
      | ok cs =>
        rw [hgs] at ih
        exact ih.bind (yields_pure (c :: cs))

/-! ## The stages -/

end Action

/-- The text of the change list at a URL, or why there is none. -/
def Web.changeList (web : Web) (followRedirects : Bool) (url : String) : Except Failure (List Glyph) :=
  match (web.fetch followRedirects url).2 with
  | .error e => .error (.ofFetch url e)
  | .ok response => (response.text web.names).mapError fun fault => .unexplained (.unreadable fault)

/-- The index of the change list at a URL, or why there is none. -/
def Web.index (web : Web) (followRedirects : Bool) (url : String) : Except Failure Index :=
  (web.changeList followRedirects url).map fun text => Index.ofList (ChangeList.renames text)

/-- The files that a list of patterns stands for in a tree, or why there are none. -/
def FileSet.resolve (t : Tree) (input : String) (endings : List String) :
    Except Failure (List String) :=
  ((patterns input).mapM fun pattern =>
    (ofPattern t pattern endings).mapError fun fault =>
      .unexplained (.file pattern fault)).map List.flatten

/-- The tree after a summary was reported at a path: it is written there, or what was there is
removed when nothing changed. -/
def Summary.reportAt (s : Summary) (path : String) (t : Tree) : Except FileFault Tree :=
  if s.hasChanges then t.write path (octetsOf s.render)
  else
    match t.remove path with
    | .error .notFound => .ok t
    | result => result

namespace Action

variable {web : Web} {t : Tree}

theorem yields_fetchEntries (web : Web) (t : Tree) (url : String) (followRedirects : Bool) :
    (fetchEntries url followRedirects).Yields web t
      ((web.changeList followRedirects url).map ChangeList.entries) t := by
  unfold fetchEntries
  refine .after_log (.bind_get fun s hs => ?_)
  subst hs
  rw [Web.changeList]
  dsimp only
  obtain ⟨requests, result⟩ := s.web.fetch followRedirects url
  have hsend : (modify fun s => { s with requests := s.requests ++ requests } : Action Unit).Yields
      s.web t (.ok ()) t :=
    yields_modify (fun _ => rfl) fun _ => ⟨rfl, rfl, rfl, rfl⟩
  dsimp only
  refine hsend.bind ?_
  cases result with
  | error e => exact (yields_ofExcept (Failure.ofFetch url) (.error e)).bind_error
  | ok response =>
    refine (yields_ofExcept (Failure.ofFetch url) (.ok response)).bind ?_
    dsimp only
    cases response.text s.web.names with
    | error fault => exact (yields_ofExcept _ (.error fault)).bind_error
    | ok text =>
      refine (yields_ofExcept _ (.ok text)).bind ?_
      exact .after_log (yields_pure _)

theorem yields_fetchIndex (web : Web) (t : Tree) (url : String) (followRedirects : Bool) :
    (fetchIndex url followRedirects).Yields web t (web.index followRedirects url) t := by
  unfold fetchIndex
  have hentries := yields_fetchEntries web t url followRedirects
  rw [Web.index]
  cases hlist : web.changeList followRedirects url with
  | error e =>
    rw [hlist] at hentries
    exact hentries.bind_error
  | ok text =>
    rw [hlist] at hentries
    exact hentries.bind (.after_log (.after_log (yields_pure _)))

theorem yields_expandPattern (web : Web) (t : Tree) (pattern : String) (endings : List String) :
    (expandPattern pattern endings).Yields web t
      ((FileSet.ofPattern t pattern endings).mapError fun fault =>
        .unexplained (.file pattern fault)) t := by
  unfold expandPattern
  refine (yields_observe _).bind ?_
  cases FileSet.ofPattern t pattern endings with
  | error fault => exact (yields_ofExcept _ (.error fault)).bind_error
  | ok files => exact (yields_ofExcept _ (.ok files)).bind (.after_log (yields_pure files))

theorem yields_resolveFiles (web : Web) (t : Tree) (input : String) (endings : List String) :
    (resolveFiles input endings).Yields web t (FileSet.resolve t input endings) t := by
  unfold resolveFiles
  have hall := yields_mapM (fun pattern => yields_expandPattern web t pattern endings)
    (FileSet.patterns input)
  rw [FileSet.resolve]
  cases hfound : (FileSet.patterns input).mapM fun pattern =>
      (FileSet.ofPattern t pattern endings).mapError fun fault =>
        Failure.unexplained (.file pattern fault) with
  | error e =>
    rw [hfound] at hall
    exact hall.bind_error
  | ok found =>
    rw [hfound] at hall
    exact hall.bind (.after_log (yields_pure _))

theorem yields_renameInFile (web : Web) (t : Tree) (index : Index) (path : String) :
    (renameInFile index path).Yields web t (renameAt index path t).1 (renameAt index path t).2 := by
  intro s _ ht
  subst ht
  obtain ⟨more, hout⟩ := outcome_renameInFile index path s
  exact ⟨_, hout, rfl, s.continues_later _ _⟩

/-- Renaming in files goes through with all of them, or it fails at one, has gone through with those
before it, and leaves what that failure leaves. -/
theorem yields_renameInFiles (web : Web) (index : Index) (paths : List String) (t : Tree) :
    (∃ diffs tree, Renamings index paths t diffs tree ∧
      (renameInFiles index paths).Yields web t (.ok diffs) tree) ∨
    ∃ done path rest diffs tree e tree', paths = done ++ path :: rest ∧
      Renamings index done t diffs tree ∧ renameAt index path tree = (.error e, tree') ∧
      (renameInFiles index paths).Yields web t (.error e) tree' := by
  induction paths generalizing t with
  | nil => exact .inl ⟨[], t, .nil t, yields_pure []⟩
  | cons path rest ih =>
    have hfirst := yields_renameInFile web t index path
    obtain ⟨result, t', hat⟩ : ∃ result t', renameAt index path t = (result, t') := ⟨_, _, rfl⟩
    rw [hat] at hfirst
    cases result with
    | error e =>
      exact .inr ⟨[], path, rest, [], t, e, t', rfl, .nil t, hat, hfirst.bind_error⟩
    | ok ds =>
      rcases ih t' with
        ⟨es, tree, hrest, hout⟩ | ⟨done, next, more, es, tree, e, tree', rfl, hdone, hnext, hout⟩
      · exact .inl ⟨ds ++ es, tree, .cons hat hrest, hfirst.bind (hout.bind (yields_pure _))⟩
      · exact .inr ⟨path :: done, next, more, ds ++ es, tree, e, tree', rfl, .cons hat hdone, hnext,
          hfirst.bind hout.bind_error⟩

theorem yields_change_ok {f : Tree → Except FileFault Tree} {tree : Tree} (h : f t = .ok tree)
    (explain : FileFault → Failure) : (change explain f).Yields web t (.ok ()) tree := by
  intro s _ ht
  subst ht
  exact ⟨_, outcome_change_ok explain f h, rfl, s.continues_later _ _⟩

theorem yields_change_error {f : Tree → Except FileFault Tree} {fault : FileFault}
    (h : f t = .error fault) (explain : FileFault → Failure) :
    (change explain f).Yields web t (.error (explain fault)) t := by
  intro s _ ht
  subst ht
  exact ⟨s, outcome_change_error explain f h, rfl, rfl, rfl, rfl, rfl⟩

theorem yields_writeSummary_ok {s : Summary} {path : String} {tree : Tree}
    (h : t.write (Path.normal path) (octetsOf s.render) = .ok tree) :
    (writeSummary s path).Yields web t (.ok (Path.normal path)) tree := by
  unfold writeSummary
  generalize Path.normal path = normal at *
  generalize octetsOf s.render = content at *
  have hchange : (change (.ofSummary normal) fun t => t.write normal content).Yields web t
      (.ok ()) tree := yields_change_ok h _
  exact hchange.bind (.after_log (yields_pure normal))

theorem yields_writeSummary_error {s : Summary} {path : String} {fault : FileFault}
    (h : t.write (Path.normal path) (octetsOf s.render) = .error fault) :
    (writeSummary s path).Yields web t (.error (.ofSummary (Path.normal path) fault)) t := by
  unfold writeSummary
  generalize Path.normal path = normal at *
  generalize octetsOf s.render = content at *
  have hchange : (change (.ofSummary normal) fun t => t.write normal content).Yields web t
      (.error (.ofSummary normal fault)) t := yields_change_error h _
  exact hchange.bind_error

theorem yields_removeSummary_ok {path : String} {tree : Tree}
    (h : t.remove (Path.normal path) = .ok tree) :
    (removeSummary path).Yields web t (.ok true) tree := by
  unfold removeSummary
  generalize Path.normal path = normal at *
  refine (yields_observe _).bind ?_
  rw [h]
  exact (yields_setTree tree).bind (.after_log (yields_pure true))

theorem yields_removeSummary_notFound {path : String}
    (h : t.remove (Path.normal path) = .error .notFound) :
    (removeSummary path).Yields web t (.ok false) t := by
  unfold removeSummary
  generalize Path.normal path = normal at *
  refine (yields_observe _).bind ?_
  rw [h]
  exact yields_pure false

theorem yields_removeSummary_error {path : String} {fault : FileFault}
    (h : t.remove (Path.normal path) = .error fault) (hfault : fault ≠ .notFound) :
    (removeSummary path).Yields web t (.error (.ofSummary (Path.normal path) fault)) t := by
  unfold removeSummary
  generalize Path.normal path = normal at *
  refine (yields_observe _).bind ?_
  rw [h]
  cases fault with
  | notFound => exact absurd rfl hfault
  | _ => exact yields_throw _

theorem yields_reportSummary (web : Web) (t : Tree) (s : Summary) (path : String) :
    (reportSummary s path).Yields web t
      (match s.reportAt (Path.normal path) t with
        | .ok _ => .ok s.hasChanges
        | .error fault => .error (.ofSummary (Path.normal path) fault))
      (match s.reportAt (Path.normal path) t with
        | .ok tree => tree
        | .error _ => t) := by
  unfold reportSummary
  refine .after_log (.after_log ?_)
  rw [Summary.reportAt]
  cases s.hasChanges with
  | true =>
    rw [if_pos rfl, if_pos rfl]
    cases hwrite : t.write (Path.normal path) (octetsOf s.render) with
    | ok tree => exact (yields_writeSummary_ok hwrite).bind (yields_pure true)
    | error fault => exact (yields_writeSummary_error hwrite).bind_error
  | false =>
    rw [if_neg Bool.false_ne_true, if_neg Bool.false_ne_true]
    cases hremove : t.remove (Path.normal path) with
    | ok tree => exact (yields_removeSummary_ok hremove).bind (yields_pure false)
    | error fault =>
      by_cases hfault : fault = .notFound
      · subst hfault
        exact (yields_removeSummary_notFound hremove).bind (yields_pure false)
      · have herror : (removeSummary path).Yields web t
            (.error (.ofSummary (Path.normal path) fault)) t :=
          yields_removeSummary_error hremove hfault
        cases fault with
        | notFound => exact absurd rfl hfault
        | _ => exact herror.bind_error

end Action

theorem Renamings.yields {index : Index} {paths : List String} {t tree : Tree} {diffs : List Diff}
    (h : Renamings index paths t diffs tree) (web : Web) :
    (Action.renameInFiles index paths).Yields web t (.ok diffs) tree := by
  induction h with
  | nil t => exact Action.yields_pure []
  | @cons path rest t t' t'' ds es hat _ ih =>
    have hfirst := Action.yields_renameInFile web t index path
    rw [hat] at hfirst
    exact hfirst.bind (ih.bind (Action.yields_pure _))

/-! ## The ways of a run -/

/-- How a run ends in a web and a tree, and the tree that it leaves. -/
inductive Run.Course (r : Run) (web : Web) (t : Tree) : Except Failure Summary → Tree → Prop
  | unfetched {e : Failure} : web.index r.followRedirects r.url = .error e →
      Course r web t (.error e) t
  | unresolved {index : Index} {e : Failure} : web.index r.followRedirects r.url = .ok index →
      FileSet.resolve t r.input r.endings = .error e → Course r web t (.error e) t
  | unrenamed {index : Index} {done rest : List String} {path : String} {diffs : List Diff}
      {tree tree' : Tree} {e : Failure} : web.index r.followRedirects r.url = .ok index →
      FileSet.resolve t r.input r.endings = .ok (done ++ path :: rest) →
      Renamings index done t diffs tree → Action.renameAt index path tree = (.error e, tree') →
      Course r web t (.error e) tree'
  | unreported {index : Index} {files : List String} {diffs : List Diff} {tree : Tree}
      {fault : FileFault} : web.index r.followRedirects r.url = .ok index →
      FileSet.resolve t r.input r.endings = .ok files → Renamings index files t diffs tree →
      (Summary.ofDiffs diffs).reportAt (Path.normal r.summaryPath) tree = .error fault →
      Course r web t (.error (.ofSummary (Path.normal r.summaryPath) fault)) tree
  | done {index : Index} {files : List String} {diffs : List Diff} {tree tree' : Tree} :
      web.index r.followRedirects r.url = .ok index →
      FileSet.resolve t r.input r.endings = .ok files → Renamings index files t diffs tree →
      (Summary.ofDiffs diffs).reportAt (Path.normal r.summaryPath) tree = .ok tree' →
      Course r web t (.ok (Summary.ofDiffs diffs)) tree'

/-- Every run ends in one of the ways, which the web and the tree determine. -/
theorem Run.exists_course (r : Run) (web : Web) (t : Tree) :
    ∃ result tree, r.Course web t result tree ∧ r.perform.Yields web t result tree := by
  unfold Run.perform
  have hfetch := Action.yields_fetchIndex web t r.url r.followRedirects
  cases hindex : web.index r.followRedirects r.url with
  | error e =>
    rw [hindex] at hfetch
    exact ⟨_, _, .unfetched hindex, hfetch.bind_error⟩
  | ok index =>
  rw [hindex] at hfetch
  have hresolve := Action.yields_resolveFiles web t r.input r.endings
  cases hfiles : FileSet.resolve t r.input r.endings with
  | error e =>
    rw [hfiles] at hresolve
    exact ⟨_, _, .unresolved hindex hfiles, hfetch.bind hresolve.bind_error⟩
  | ok files =>
  rw [hfiles] at hresolve
  rcases Action.yields_renameInFiles web index files t with
    ⟨diffs, tree, hall, hout⟩ | ⟨done, path, rest, diffs, tree, e, tree', rfl, hdone, hfail, hout⟩
  · have hsummary :=
      Action.yields_reportSummary web tree (Summary.ofDiffs diffs) r.summaryPath
    cases hreport : (Summary.ofDiffs diffs).reportAt (Path.normal r.summaryPath) tree with
    | error fault =>
      rw [hreport] at hsummary
      exact ⟨_, _, .unreported hindex hfiles hall hreport,
        hfetch.bind (hresolve.bind (hout.bind hsummary.bind_error))⟩
    | ok tree' =>
      rw [hreport] at hsummary
      exact ⟨_, _, .done hindex hfiles hall hreport,
        hfetch.bind (hresolve.bind (hout.bind (hsummary.bind (Action.yields_pure _))))⟩
  · exact ⟨_, _, .unrenamed hindex hfiles hdone hfail,
      hfetch.bind (hresolve.bind hout.bind_error)⟩

/-- What an action yields is its outcome. -/
theorem Action.Yields.outcome_eq {β : Type} {a : Action β} {result : Except Failure β} {s : Session}
    {tree : Tree} (h : a.Yields s.web s.tree result tree) :
    (a.outcome s).1 = result ∧ (a.outcome s).2.tree = tree ∧ s.Continues (a.outcome s).2 := by
  obtain ⟨s', hout, htree, hs⟩ := h s rfl rfl
  rw [hout]
  exact ⟨rfl, htree, hs⟩

/-- The outcome of a run is the end of its course. -/
theorem Run.course_perform (r : Run) (s : Session) :
    r.Course s.web s.tree (r.perform.outcome s).1 (r.perform.outcome s).2.tree := by
  obtain ⟨result, tree, hcourse, hout⟩ := r.exists_course s.web s.tree
  obtain ⟨hresult, htree, -⟩ := hout.outcome_eq
  rw [hresult, htree]
  exact hcourse

/-- A run leaves the web as it is. -/
theorem Run.web_perform (r : Run) (s : Session) : (r.perform.outcome s).2.web = s.web := by
  obtain ⟨result, tree, -, hout⟩ := r.exists_course s.web s.tree
  exact hout.outcome_eq.2.2.web

/-! ## The tree after a run -/

/-- A run that goes through has renamed in all files and reported what it renamed. -/
theorem Run.Course.of_ok {r : Run} {web : Web} {t tree : Tree} {summary : Summary}
    (h : r.Course web t (.ok summary) tree) : ∃ index files renamed,
      web.index r.followRedirects r.url = .ok index ∧
      FileSet.resolve t r.input r.endings = .ok files ∧
      Renamings index files t summary.changes renamed ∧
      summary.reportAt (Path.normal r.summaryPath) renamed = .ok tree := by
  generalize hresult : Except.ok summary = result at h
  cases h with
  | done hindex hfiles hall hreport =>
    cases hresult
    exact ⟨_, _, _, hindex, hfiles, hall, hreport⟩
  | _ => cases hresult

/-- Without diffs the tree is the same. -/
theorem Renamings.eq_of_no_diffs {index : Index} {paths : List String} {t tree : Tree}
    {diffs : List Diff} (h : Renamings index paths t diffs tree) (hnone : diffs = []) :
    tree = t := by
  induction h with
  | nil => rfl
  | @cons path rest t t' t'' ds es hat _ ih =>
    obtain ⟨hds, hes⟩ := List.append_eq_nil_iff.1 hnone
    rw [ih hes]
    rcases renameAt_ok_cases hat with ⟨l, content, hw, hdiffs, rfl⟩ | ⟨-, -, rfl⟩
    · rw [text_of_no_diffs (hdiffs.symm.trans hds), Tree.place_self (Tree.node?_of_walk hw)]
    · rfl

/-- Reporting a summary keeps all directories and touches nothing but its own place. -/
theorem Summary.reportAt_others {s : Summary} {path : String} {t tree : Tree}
    (h : s.reportAt path t = .ok tree) : t.SameDirectories tree ∧
      ∀ l, t.location? path ≠ some l → tree.node? l = t.node? l := by
  rw [Summary.reportAt] at h
  split at h
  · exact Tree.write_others h
  · split at h
    · cases h
      exact ⟨.refl t, fun _ _ => rfl⟩
    · exact Tree.remove_others h

/-- A run that changes nothing only removes what is at the summary path. -/
theorem Run.Course.of_no_changes {r : Run} {web : Web} {t tree : Tree} {summary : Summary}
    (h : r.Course web t (.ok summary) tree) (hnone : summary.changes = []) :
    (∀ l, t.location? (Path.normal r.summaryPath) ≠ some l → tree.node? l = t.node? l) ∧
      tree.isFile (Path.normal r.summaryPath) = false := by
  obtain ⟨index, files, renamed, -, -, hall, hreport⟩ := h.of_ok
  obtain rfl := hall.eq_of_no_diffs hnone
  generalize Path.normal r.summaryPath = path at *
  refine ⟨(Summary.reportAt_others hreport).2, ?_⟩
  have hchanges : summary.hasChanges = false := by
    rw [Summary.hasChanges, Summary.total, hnone]
    rfl
  rw [Summary.reportAt, hchanges, if_neg Bool.false_ne_true] at hreport
  split at hreport
  case h_1 hgone =>
    cases hreport
    exact Tree.not_isFile_of_remove hgone
  case h_2 =>
    rcases Tree.remove_cases hreport with ⟨l, hl, rfl⟩ | ⟨hw, rfl⟩
    · have hfree := Tree.node?_erase_self (Tree.not_directory_of_location hl)
      have hl' := Tree.location_mono
        (Tree.sameDirectories_erase (Tree.not_device_of_location hl)) hl
      rw [Bool.eq_false_iff]
      intro hfile
      obtain ⟨m, content, hm, hnode⟩ := Tree.isFile_iff.1 hfile
      obtain rfl : l = m := Option.some.inj (hl'.symm.trans hm)
      rw [hfree] at hnode
      cases hnode
    · rw [Tree.isFile, hw]

/-- A run that changes anything leaves the text of its summary in a file at the summary path. -/
theorem Run.Course.of_changes {r : Run} {web : Web} {t tree : Tree} {summary : Summary}
    (h : r.Course web t (.ok summary) tree) (hsome : summary.hasChanges = true)
    (hdevice : t.walk (Path.normal r.summaryPath) ≠ .ok .device) :
    ∃ l, tree.walk (Path.normal r.summaryPath) = .ok (.file l (octetsOf summary.render)) := by
  obtain ⟨index, files, renamed, -, -, hall, hreport⟩ := h.of_ok
  rw [Summary.reportAt, if_pos hsome] at hreport
  generalize Path.normal r.summaryPath = path at *
  generalize octetsOf summary.render = content at *
  exact Tree.walk_of_write hreport fun hw =>
    hdevice (Tree.walk_of_sameDirectories hall.sameDirectories.symm hw)

end Restyle
