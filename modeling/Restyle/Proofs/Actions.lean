import Restyle.Proofs.Files
import Restyle.Proofs.Octets
import Restyle.Run

/-!
# What actions come to

Actions are described by their outcome: the result or failure, and the session after it. Messages are
kept apart from everything else, so an action says what becomes of the tree and that it may have
reported something.

Renaming in a file is described on the octets of the file (`outcome_renameInFile`).
-/

namespace Restyle

open Text

/-- The session with a tree and with more messages. -/
def Session.later (s : Session) (tree : Tree) (more : List String) : Session :=
  { s with tree := tree, messages := s.messages ++ more }

@[simp] theorem Session.tree_later (s : Session) (tree : Tree) (more : List String) :
    (s.later tree more).tree = tree := rfl

@[simp] theorem Session.later_later (s : Session) (tree tree' : Tree) (more more' : List String) :
    (s.later tree more).later tree' more' = s.later tree' (more ++ more') := by
  simp only [later, List.append_assoc]

theorem Session.later_self (s : Session) : s.later s.tree [] = s := by
  rw [later, List.append_nil]

namespace Action

variable {β γ : Type}

/-! ## Outcomes -/

/-- What an action comes to: its result or failure, and the session after it. -/
def outcome (a : Action β) (s : Session) : Except Failure β × Session :=
  a.run.run s

theorem outcome_pure (b : β) (s : Session) : (pure b : Action β).outcome s = (.ok b, s) := rfl

theorem outcome_bind_ok {a : Action β} {f : β → Action γ} {s s' : Session} {b : β}
    (h : a.outcome s = (.ok b, s')) : (a >>= f).outcome s = (f b).outcome s' := by
  unfold outcome at *
  rw [ExceptT.run_bind, StateT.run_bind, h]
  rfl

theorem outcome_bind_error {a : Action β} {f : β → Action γ} {s s' : Session} {e : Failure}
    (h : a.outcome s = (.error e, s')) : (a >>= f).outcome s = (.error e, s') := by
  unfold outcome at *
  rw [ExceptT.run_bind, StateT.run_bind, h]
  rfl

theorem outcome_get (s : Session) : (get : Action Session).outcome s = (.ok s, s) := rfl

theorem outcome_observe (f : Tree → β) (s : Session) :
    (observe f).outcome s = (.ok (f s.tree), s) := rfl

theorem outcome_ofExcept_ok {ε : Type} (explain : ε → Failure) (b : β) (s : Session) :
    (ofExcept explain (.ok b)).outcome s = (.ok b, s) := rfl

theorem outcome_ofExcept_error {ε : Type} (explain : ε → Failure) (e : ε) (s : Session) :
    (ofExcept explain (.error e) : Action β).outcome s = (.error (explain e), s) := rfl

theorem outcome_log (level : Level) (text : String) (s : Session) :
    ∃ more, (log level text).outcome s = (.ok (), s.later s.tree more) := by
  by_cases h : s.shown.rank ≤ level.rank
  · refine ⟨[text], ?_⟩
    show (Except.ok (), if s.shown.rank ≤ level.rank then _ else s) = _
    rw [if_pos h]
    rfl
  · refine ⟨[], ?_⟩
    show (Except.ok (), if s.shown.rank ≤ level.rank then _ else s) = _
    rw [if_neg h, s.later_self]

theorem outcome_forM_log (level : Level) (text : β → String) (bs : List β) (s : Session) :
    ∃ more, (bs.forM fun b => log level (text b)).outcome s = (.ok (), s.later s.tree more) := by
  induction bs generalizing s with
  | nil => exact ⟨[], by rw [s.later_self]; rfl⟩
  | cons b bs ih =>
    obtain ⟨more, hlog⟩ := outcome_log level (text b) s
    obtain ⟨more', hrest⟩ := ih (s.later s.tree more)
    refine ⟨more ++ more', ?_⟩
    show (log level (text b) >>= fun _ => bs.forM fun b => log level (text b)).outcome s = _
    rw [outcome_bind_ok hlog, hrest, Session.later_later, Session.tree_later]

theorem outcome_change_ok (explain : FileFault → Failure) (f : Tree → Except FileFault Tree)
    {s : Session} {tree : Tree} (h : f s.tree = .ok tree) :
    (change explain f).outcome s = (.ok (), s.later tree []) := by
  unfold change
  rw [outcome_bind_ok (outcome_get s), h, outcome_bind_ok (outcome_ofExcept_ok explain tree s),
    Session.later, List.append_nil]
  rfl

theorem outcome_change_error (explain : FileFault → Failure) (f : Tree → Except FileFault Tree)
    {s : Session} {fault : FileFault} (h : f s.tree = .error fault) :
    (change explain f).outcome s = (.error (explain fault), s) := by
  unfold change
  rw [outcome_bind_ok (outcome_get s), h,
    outcome_bind_error (outcome_ofExcept_error explain fault s)]

/-! ## Renaming in a file -/

end Action

/-- What comes of renaming in a file: the diffs, or a failure if a new name cannot be written. -/
def Renamed.result (done : Renamed UInt8) : Except Failure (List Diff) :=
  if done.diffs.all Diff.encodes then .ok done.diffs else .error (.unexplained .unencodable)

/-- What is left in the file: the renamed text, or nothing if a new name cannot be written. -/
def Renamed.left (done : Renamed UInt8) : Octets :=
  if done.diffs.all Diff.encodes then done.text else []

namespace Action

/-- What renaming in a file comes to, and the tree after it. It acts on the octets of the file. -/
def renameAt (index : Index) (path : String) (t : Tree) : Except Failure (List Diff) × Tree :=
  match t.read path with
  | .error fault => (.error (.ofRename path fault), t)
  | .ok content =>
    let done := renameInContent path index content
    match t.write path done.left with
    | .error fault => (.error (.ofRename path fault), t)
    | .ok tree => (done.result, tree)

theorem renameAt_of_error {index : Index} {path : String} {t : Tree} {fault : FileFault}
    (h : t.read path = .error fault) :
    renameAt index path t = (.error (.ofRename path fault), t) := by
  rw [renameAt, h]

/-- Renaming in a file comes to what is done to its octets. -/
theorem renameAt_of_walk (index : Index) {path : String} {t : Tree} {l : Location}
    {content : Octets} (h : t.walk path = .ok (.file l content)) :
    renameAt index path t = ((renameInContent path index content).result,
      t.place l (.file (renameInContent path index content).left)) := by
  simp only [renameAt, Tree.read_of_walk h, Tree.write_of_walk h]

/-- Without diffs a renamed text is what it was, and it can be written. -/
theorem left_of_no_diffs {file : String} {index : Index} {content : Octets}
    (h : (renameInContent file index content).diffs = []) :
    (renameInContent file index content).result = .ok [] ∧
      (renameInContent file index content).left = content := by
  rw [Renamed.result, Renamed.left, h, text_of_no_diffs h]
  exact ⟨rfl, rfl⟩

/-- Only the null device is no file and can be read all the same, but nothing in it is renamed. -/
theorem renameAt_of_device (index : Index) {path : String} {t : Tree}
    (h : t.walk path = .ok .device) : renameAt index path t = (.ok [], t) := by
  have hread : t.read path = .ok [] := by
    rw [Tree.read, h]
    rfl
  have hwrite (content : Octets) : t.write path content = .ok t := by
    rw [Tree.write, h]
    rfl
  simp only [renameAt, hread, hwrite,
    (left_of_no_diffs (diffs_renameInContent_nil path index)).1]

/-- Without diffs nothing is done. -/
theorem renameAt_of_no_diffs {index : Index} {path : String} {t : Tree} {content : Octets}
    (h : t.read path = .ok content) (hnone : (renameInContent path index content).diffs = []) :
    renameAt index path t = (.ok [], t) := by
  rcases Tree.read_cases h with ⟨l, hw⟩ | ⟨hw, -⟩
  · obtain ⟨hresult, hleft⟩ := left_of_no_diffs hnone
    rw [renameAt_of_walk index hw, hresult, hleft, Tree.place_self (Tree.node?_of_walk hw)]
  · exact renameAt_of_device index hw

theorem outcome_readText_ok {path : String} {explain : FileFault → Failure} {s : Session}
    {content : Octets} (h : s.tree.read path = .ok content) :
    (readText path explain).outcome s = (.ok (Glyph.ofOctets content), s) := by
  unfold readText
  rw [outcome_bind_ok (outcome_observe _ s), h, outcome_bind_ok (outcome_ofExcept_ok explain _ s)]
  rfl

theorem outcome_readText_error {path : String} {explain : FileFault → Failure} {s : Session}
    {fault : FileFault} (h : s.tree.read path = .error fault) :
    (readText path explain).outcome s = (.error (explain fault), s) := by
  unfold readText
  rw [outcome_bind_ok (outcome_observe _ s), h,
    outcome_bind_error (outcome_ofExcept_error explain fault s)]

/-- Text is written in the place of a file, which is left empty if the text has no octets. -/
theorem outcome_writeText {path : String} (text : List Glyph) (explain : FileFault → Failure)
    {s : Session} {l : Location} {old : Octets} (h : s.tree.walk path = .ok (.file l old)) :
    (writeText path text explain).outcome s =
      if Glyph.encodes text
        then (.ok (), s.later (s.tree.place l (.file (Glyph.toOctets text))) [])
        else (.error (.unexplained .unencodable), s.later (s.tree.place l (.file [])) []) := by
  have hemptied : (s.tree.place l (.file [])).walk path = .ok (.file l []) := by
    rw [Tree.walk_place (Tree.node?_of_walk h), h]
    rw [Except.map, Tree.Place.withContent, if_pos rfl]
  have hfirst := outcome_change_ok explain (fun t => t.write path []) (Tree.write_of_walk h [])
  unfold writeText
  rw [outcome_bind_ok hfirst, Glyph.encode?]
  by_cases hencodes : Glyph.encodes text = true
  · rw [if_pos hencodes, if_pos hencodes]
    have hwrite := Tree.write_of_walk hemptied (Glyph.toOctets text)
    have hadmits := Tree.admits_of_file (Tree.node?_of_walk h)
    rw [Tree.place_place (hadmits _) (hadmits _)] at hwrite
    have hsecond := outcome_change_ok explain (fun t => t.write path (Glyph.toOctets text))
      (s := s.later (s.tree.place l (.file [])) []) hwrite
    rw [hsecond, Session.later_later]
    rfl
  · rw [if_neg hencodes, if_neg hencodes]
    rfl

/-- Renaming the octets of a file is renaming its text. -/
theorem renameInContent_ofOctets (file : String) (index : Index) (content : Octets) :
    renameInContent file index content =
      (renameInContent file index (Glyph.ofOctets content)).toOctets := by
  have h := renameInContent_toOctets file index (Glyph.ofOctets content)
  rwa [toOctets_ofOctets] at h

/-- What is done once a file has been read: the diffs are reported, and the text is written if there are
any. -/
theorem outcome_renameInFile_of_read (index : Index) {path : String} {s : Session}
    {content : Octets} (h : s.tree.read path = .ok content) :
    let done := renameInContent path index (Glyph.ofOctets content)
    ∃ more, (renameInFile index path).outcome s =
      (do
        if done.diffs ≠ [] then
          writeText path done.text (.ofRename path)
          log .info ("Modified: " ++ path)
        return done.diffs : Action (List Diff)).outcome (s.later s.tree more) := by
  intro done
  obtain ⟨more, hlogs⟩ := outcome_forM_log .debug diffText done.diffs s
  refine ⟨more, ?_⟩
  unfold renameInFile
  rw [outcome_bind_ok (outcome_readText_ok h)]
  exact outcome_bind_ok hlogs

/-- Renaming in a file changes the tree as it says, and reports. -/
theorem outcome_renameInFile (index : Index) (path : String) (s : Session) :
    ∃ more, (renameInFile index path).outcome s =
      ((renameAt index path s.tree).1, s.later (renameAt index path s.tree).2 more) := by
  cases hread : s.tree.read path with
  | error fault =>
    refine ⟨[], ?_⟩
    unfold renameInFile
    rw [renameAt_of_error hread, outcome_bind_error (outcome_readText_error hread), s.later_self]
  | ok content =>
    obtain ⟨more, hout⟩ := outcome_renameInFile_of_read index hread
    have hdone := renameInContent_ofOctets path index content
    have hencodes := encodes_renameInContent path index (Glyph.ofOctets content)
    rw [encodes_ofOctets, Bool.true_and] at hencodes
    rw [hout]
    -- From here on the text counts only through its octets and its diffs.
    generalize renameInContent path index (Glyph.ofOctets content) = done at *
    have hdiffs : (renameInContent path index content).diffs = done.diffs := by
      rw [hdone]
      rfl
    by_cases hnone : done.diffs = []
    · -- Nothing was renamed, so nothing is written.
      refine ⟨more, ?_⟩
      rw [renameAt_of_no_diffs hread (hdiffs.trans hnone), if_neg (not_not_intro hnone), hnone]
      exact outcome_pure [] _
    rcases Tree.read_cases hread with ⟨l, hw⟩ | ⟨-, rfl⟩
    · have hwrite := outcome_writeText done.text (.ofRename path) (s := s.later s.tree more) hw
      rw [if_pos hnone, renameAt_of_walk index hw, hdone, Renamed.result, Renamed.left]
      by_cases hall : Glyph.encodes done.text = true
      · have hall' : done.toOctets.diffs.all Diff.encodes = true := hencodes ▸ hall
        obtain ⟨last, hlog⟩ := outcome_log .info ("Modified: " ++ path)
          ((s.later s.tree more).later (s.tree.place l (.file (Glyph.toOctets done.text))) [])
        refine ⟨more ++ [] ++ last, ?_⟩
        rw [if_pos hall, Session.tree_later] at hwrite
        rw [outcome_bind_ok hwrite, outcome_bind_ok hlog, if_pos hall', if_pos hall']
        simp only [Session.later_later, Session.tree_later]
        rfl
      · have hall' : ¬ done.toOctets.diffs.all Diff.encodes = true := hencodes ▸ hall
        refine ⟨more ++ [], ?_⟩
        rw [if_neg hall, Session.tree_later] at hwrite
        rw [outcome_bind_error hwrite, if_neg hall', if_neg hall', Session.later_later]
    · -- There is nothing to rename in the null device.
      exact absurd (hdiffs ▸ diffs_renameInContent_nil path index) hnone

end Action

end Restyle
