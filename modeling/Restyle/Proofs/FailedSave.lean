import Restyle.Proofs.Expressible
import Restyle.Proofs.SavedSettings

/-!
# What a failed save leaves

Saving opens the settings file before the table is written out, so a table that cannot be written is
noticed too late: the file holds what was written until then, and what it held before is lost
(`failed_save_empties_file`). This is the one way to lose it. Otherwise saving fails at a path, and then
there was no settings file and every other file is as it was (`saving_fails_by_path_or_obstacle`); where
the settings file exists, its directory does, and saving fails for an obstacle in the table alone.
-/

namespace Restyle

open Text

/-- Above a file at a normal path there is a directory, unless the path is a single name. -/
theorem Tree.isDirectory_above {t : Tree} {path : String} {names : List String}
    (h : t.isFile (Path.normal path) = true)
    (hnames : ((Path.pieces (Path.normal path)).filter Path.isStep).dropLast = names) :
    names = [] ∨ t.isDirectory (Path.root (Path.normal path) ++ Path.ofPieces names) = true := by
  obtain ⟨l, content, hlocation, hnode⟩ := isFile_iff.1 h
  have hwalk := walk_of_location hlocation
  rw [placeAt, hnode] at hwalk
  rcases ((Path.pieces path).filter Path.isStep).eq_nil_or_concat' with hnil | ⟨init, last, hsplit⟩
  · left
    rw [← hnames, Path.normal, hnil]
    rcases Path.root_cases path with hroot | hroot | hroot <;> rw [hroot] <;> decide
  have hsteps : ∀ name ∈ init ++ [last], Path.IsName name ∧ Path.isStep name = true := by
    intro name hname
    rw [← hsplit] at hname
    exact ⟨Path.isName_of_mem_steps hname, (List.mem_filter.1 hname).2⟩
  have hall : ∀ name ∈ init ++ [last], Path.IsName name := fun name hname => (hsteps name hname).1
  obtain ⟨hinits, hlasts⟩ := List.forall_mem_append.1 hall
  rw [Path.normal_eq (by simp) hsplit] at hnames hwalk ⊢
  obtain ⟨k, hpieces⟩ := Path.exists_pieces_root_append path (by simp)
    fun name hname => (hall name hname).slash_not_mem
  have hkept : (init ++ [last]).filter Path.isStep = init ++ [last] :=
    List.filter_eq_self.2 fun name hname => (hsteps name hname).2
  have hempty : (List.replicate k "").filter Path.isStep = [] :=
    List.filter_replicate_of_neg (by decide)
  rw [hpieces, List.filter_append, hempty, List.nil_append, hkept, List.dropLast_concat] at hnames
  subst hnames
  by_cases hinit : init = []
  · exact .inl hinit
  rw [Path.root_root_append path (Path.isAbsolute_ofPieces hall)]
  rw [← Path.join_root hinit hall] at hwalk
  refine .inr (isDirectory_of_join ?_ ?_ hwalk)
  · exact fun h => (Path.ofPieces_ends hinit hinits).1 (String.append_eq_empty_iff.1 h).2
  · exact Path.isAbsolute_of_slash_not_mem
      (hlasts last (List.mem_singleton_self last)).slash_not_mem

/-! ## Making directories keeps files -/

namespace Tree

/-- The same files, with the same contents. -/
def SameFiles (t t' : Tree) : Prop :=
  ∀ l content, t'.node? l = some (.file content) ↔ t.node? l = some (.file content)

theorem SameFiles.refl (t : Tree) : SameFiles t t :=
  fun _ _ => Iff.rfl

theorem SameFiles.trans {t t' t'' : Tree} (h : SameFiles t t') (h' : SameFiles t' t'') :
    SameFiles t t'' :=
  fun l content => (h' l content).trans (h l content)

/-- A directory is made where nothing stands. -/
theorem sameFiles_makeDirectory {t tree : Tree} {path : String}
    (h : t.makeDirectory path = .ok tree) : SameFiles t tree := by
  obtain ⟨place, hwalk, h⟩ := exists_of_bind_ok h
  cases place with
  | free l =>
    cases h
    intro m content
    by_cases hm : m = l
    · subst hm
      have hfree := (admits_of_walk hwalk []).1
      by_cases hadmits : t.Admits m .directory
      · rw [node?_place_self hadmits, hfree]
        simp
      · rw [place_of_not_admits hadmits]
    · rw [node?_place_of_ne t _ hm]
  | _ => cases h

end Tree

namespace Action

variable {β γ : Type}

/-- An action that keeps all files and fails by a fault of a path only. -/
def KeepsFiles (a : Action β) : Prop :=
  ∀ s, s.tree.SameFiles (a.outcome s).2.tree ∧
    ∀ e, (a.outcome s).1 = .error e → ∃ path fault, e = .unexplained (.file path fault)

theorem keepsFiles_pure (b : β) : KeepsFiles (pure b) :=
  fun s => ⟨.refl s.tree, fun e h => by cases h⟩

theorem keepsFiles_fault (path : String) (f : FileFault) :
    KeepsFiles (fault (.file path f) : Action β) :=
  fun s => ⟨.refl s.tree, fun _ h => ⟨path, f, (Except.error.inj h).symm⟩⟩

theorem keepsFiles_observe (f : Tree → β) : KeepsFiles (observe f) :=
  fun s => ⟨.refl s.tree, fun e h => by cases h⟩

theorem KeepsFiles.bind {a : Action β} {f : β → Action γ} (ha : a.KeepsFiles)
    (hf : ∀ b, (f b).KeepsFiles) : (a >>= f).KeepsFiles := by
  intro s
  obtain ⟨hsame, hfault⟩ := ha s
  cases h : a.outcome s with
  | mk result s' =>
    rw [h] at hsame hfault
    cases result with
    | error e =>
      rw [outcome_bind_error h]
      exact ⟨hsame, fun e' he => hfault e' (congrArg _ (Except.error.inj he))⟩
    | ok b =>
      rw [outcome_bind_ok h]
      exact ⟨hsame.trans (hf b s').1, (hf b s').2⟩

theorem keepsFiles_unlessDirectory (path : String) (f : FileFault) :
    KeepsFiles (unlessDirectory path f) := by
  refine (keepsFiles_observe _).bind fun isThere => ?_
  split
  · exact keepsFiles_pure ()
  · exact keepsFiles_fault path f

theorem keepsFiles_tryMakeDirectory (path : String) : KeepsFiles (tryMakeDirectory path) := by
  intro s
  unfold tryMakeDirectory
  rw [outcome_bind_ok (outcome_observe _ s)]
  cases hmade : s.tree.makeDirectory path with
  | ok tree => exact ⟨Tree.sameFiles_makeDirectory hmade, fun e h => by cases h⟩
  | error f => exact keepsFiles_pure _ s

/-- Making directories keeps all files. -/
theorem keepsFiles_makeDirectories (root : String) (names : List String) :
    KeepsFiles (makeDirectories root names) := by
  induction names with
  | nil => exact keepsFiles_pure ()
  | cons name above ih =>
    unfold makeDirectories
    refine (keepsFiles_tryMakeDirectory _).bind fun found => ?_
    split
    · exact keepsFiles_pure ()
    · refine ih.bind fun _ => (keepsFiles_tryMakeDirectory _).bind fun found => ?_
      split
      · exact keepsFiles_pure ()
      · exact keepsFiles_unlessDirectory _ _
    · exact keepsFiles_unlessDirectory _ _

/-- Where the innermost directory is there, nothing is made. -/
theorem outcome_makeDirectories_of_isDirectory {root : String} {names : List String} {s : Session}
    (h : names = [] ∨ s.tree.isDirectory (root ++ Path.ofPieces names.reverse) = true) :
    (makeDirectories root names).outcome s = (.ok (), s) := by
  cases names with
  | nil => rfl
  | cons name above =>
    have hthere := h.resolve_left (List.cons_ne_nil name above)
    unfold makeDirectories
    dsimp only
    generalize root ++ Path.ofPieces (name :: above).reverse = path at *
    have hmake : s.tree.makeDirectory path = .error .alreadyExists := by
      unfold Tree.isDirectory at hthere
      unfold Tree.makeDirectory
      split at hthere
      · rename_i hwalk
        rw [hwalk]
        rfl
      · cases hthere
    have htry : (tryMakeDirectory path).outcome s = (.ok (some .alreadyExists), s) := by
      unfold tryMakeDirectory
      rw [outcome_bind_ok (outcome_observe _ s), hmake]
      rfl
    rw [outcome_bind_ok htry]
    show (unlessDirectory path .alreadyExists).outcome s = _
    unfold unlessDirectory
    rw [outcome_bind_ok (outcome_observe _ s), if_pos hthere]
    rfl

/-! ## Saving -/

/-- The names of the directories above a file, from the innermost one outwards. -/
def directoriesAbove (path : String) : List String :=
  ((Path.pieces path).filter Path.isStep).dropLast.reverse

/-- What saving comes to once the file is written: whether all of the table was. -/
def saved (path : String) (written : Toml.Written) : Except Failure String :=
  match written.obstacle? with
  | none => .ok path
  | some o => .error (.unexplained (faultOf o))

theorem saved_eq_ok_iff {path found : String} {config : Table} :
    saved path (Toml.writeTable config) = .ok found ↔
      path = found ∧ ∀ o : Toml.Obstacle, ¬ o.In (.table config) := by
  rw [← (Toml.obstacle_writeTable config).2, saved]
  cases (Toml.writeTable config).obstacle? with
  | none => simp
  | some o => simp

/-- A table that was written is not saved for an obstacle in it. -/
theorem saved_eq_error {path : String} {config : Table} {e : Failure}
    (h : saved path (Toml.writeTable config) = .error e) :
    ∃ o : Toml.Obstacle, e = .unexplained (faultOf o) ∧ o.In (.table config) := by
  have hin := (Toml.obstacle_writeTable config).1
  rw [saved] at h
  cases hstop : (Toml.writeTable config).obstacle? with
  | none =>
    rw [hstop] at h
    cases h
  | some o =>
    rw [hstop] at h
    exact ⟨o, (Except.error.inj h).symm, hin o hstop⟩

theorem saved_fails_iff {path : String} {config : Table} :
    (∃ e, saved path (Toml.writeTable config) = .error e) ↔
      ∃ o : Toml.Obstacle, o.In (.table config) := by
  constructor
  · rintro ⟨e, h⟩
    obtain ⟨o, -, ho⟩ := saved_eq_error h
    exact ⟨o, ho⟩
  · rintro ⟨o, ho⟩
    cases h : saved path (Toml.writeTable config) with
    | ok found => exact absurd ho ((saved_eq_ok_iff.1 h).2 o)
    | error e => exact ⟨e, rfl⟩

section Save

variable {s : Session} {path : String}

/-- Once the directories are made, the file is written. -/
theorem outcome_saveSettings (hpath : s.settingsPath? = some path) {config : Table} {made : Tree}
    (h : (makeDirectories (Path.root path) (directoriesAbove path)).outcome s =
      (.ok (), s.later made [])) :
    (saveSettings config).outcome s =
      match made.write path (octetsOf (Toml.writeTable config).text) with
      | .error fault => (.error (.unexplained (.file path fault)), s.later made [])
      | .ok tree => (saved path (Toml.writeTable config), s.later tree []) := by
  unfold saveSettings
  rw [outcome_bind_ok (outcome_settingsPath_some hpath)]
  dsimp only
  unfold directoriesAbove at h
  generalize Toml.writeTable config = written
  rw [outcome_bind_ok h]
  cases hwrite : made.write path (octetsOf written.text) with
  | error fault => rw [outcome_bind_error (outcome_change_error _ _ hwrite)]
  | ok tree =>
    rw [outcome_bind_ok (outcome_change_ok _ _ hwrite), Session.later_later, List.append_nil, saved]
    cases written.obstacle? <;> rfl

/-- Saving stops at a path before a file was written, or it has written to the settings file. -/
theorem saveSettings_cases (hpath : s.settingsPath? = some path) (config : Table) :
    ∃ made : Tree, s.tree.SameFiles made ∧
      ((∃ other fault, (saveSettings config).outcome s =
          (.error (.unexplained (.file other fault)), s.later made [])) ∨
        ∃ tree, made.write path (octetsOf (Toml.writeTable config).text) = .ok tree ∧
          (saveSettings config).outcome s =
            (saved path (Toml.writeTable config), s.later tree [])) := by
  obtain ⟨made, hmade⟩ := changesTree_makeDirectories (Path.root path) (directoriesAbove path) s
  obtain ⟨hsame, hfault⟩ := keepsFiles_makeDirectories (Path.root path) (directoriesAbove path) s
  rw [hmade, Session.tree_later] at hsame
  refine ⟨made, hsame, ?_⟩
  cases hresult : (makeDirectories (Path.root path) (directoriesAbove path)).outcome s with
  | mk result before =>
  obtain rfl : before = s.later made [] := by rw [← hmade, hresult]
  cases result with
  | error e =>
    obtain ⟨other, fault, rfl⟩ := hfault e (by rw [hresult])
    refine .inl ⟨other, fault, ?_⟩
    unfold saveSettings
    rw [outcome_bind_ok (outcome_settingsPath_some hpath)]
    exact outcome_bind_error hresult
  | ok _ =>
    rw [outcome_saveSettings hpath hresult]
    cases made.write path (octetsOf (Toml.writeTable config).text) with
    | error fault => exact .inl ⟨_, fault, rfl⟩
    | ok tree => exact .inr ⟨tree, rfl, rfl⟩

theorem outcome_saveSettings_none (h : s.settingsPath? = none) (config : Table) :
    (saveSettings config).outcome s = (.error (.unexplained .homeless), s) := by
  unfold saveSettings
  exact outcome_bind_error (outcome_settingsPath_none h)

/-- The path of the settings file is normal. -/
theorem exists_normal (hpath : s.settingsPath? = some path) : ∃ p, path = Path.normal p := by
  obtain ⟨base, -, rfl⟩ := Option.map_eq_some_iff.1 hpath
  exact ⟨_, rfl⟩

/-- Where the settings file is there, its directory is. -/
theorem outcome_makeDirectories_of_isFile (hpath : s.settingsPath? = some path)
    (h : s.tree.isFile path = true) :
    (makeDirectories (Path.root path) (directoriesAbove path)).outcome s = (.ok (), s) := by
  apply outcome_makeDirectories_of_isDirectory
  obtain ⟨p, rfl⟩ := exists_normal hpath
  rcases Tree.isDirectory_above h rfl with hnil | hthere
  · exact .inl (List.reverse_eq_nil_iff.2 hnil)
  · right
    rw [directoriesAbove, List.reverse_reverse]
    exact hthere

/-- A settings file that is there is written without further ado. -/
theorem saveSettings_of_isFile (hpath : s.settingsPath? = some path) (h : s.tree.isFile path = true)
    (config : Table) :
    ((saveSettings config).outcome s).1 = saved path (Toml.writeTable config) := by
  have hmake : (makeDirectories (Path.root path) (directoriesAbove path)).outcome s =
      (.ok (), s.later s.tree []) := by
    rw [outcome_makeDirectories_of_isFile hpath h, s.later_self]
  obtain ⟨l, content, hlocation, -⟩ := Tree.isFile_iff.1 h
  rw [outcome_saveSettings hpath hmake, Tree.write_of_location hlocation]

/-- Saving stops at a path, where there is no settings file, and changes no file; or it writes to the
settings file and to no other one. -/
theorem stopped_or_saved (hpath : s.settingsPath? = some path) {config : Table} {s' : Session}
    {result : Except Failure String} (h : (saveSettings config).outcome s = (result, s')) :
    (∃ tree, s' = s.later tree []) ∧
    ((∃ other fault, result = .error (.unexplained (.file other fault))) ∧
        s.tree.isFile path = false ∧ s.tree.SameFiles s'.tree ∨
      result = saved path (Toml.writeTable config) ∧
        s'.tree.read path = .ok (octetsOf (Toml.writeTable config).text) ∧
        ∀ l content, s'.tree.location? path ≠ some l →
          (s'.tree.node? l = some (.file content) ↔ s.tree.node? l = some (.file content))) := by
  obtain ⟨made, hsame, ⟨other, fault, hsave⟩ | ⟨tree, hwrite, hsave⟩⟩ :=
    saveSettings_cases hpath config
  · obtain ⟨rfl, rfl⟩ := Prod.mk.inj (h.symm.trans hsave)
    refine ⟨⟨made, rfl⟩, .inl ⟨⟨other, fault, rfl⟩, ?_, hsame⟩⟩
    rw [Bool.eq_false_iff]
    intro hfile
    have hresult := saveSettings_of_isFile hpath hfile config
    rw [h] at hresult
    obtain ⟨o, hfault, -⟩ := saved_eq_error hresult.symm
    cases o <;> cases hfault
  · obtain ⟨rfl, rfl⟩ := Prod.mk.inj (h.symm.trans hsave)
    refine ⟨⟨tree, rfl⟩, .inr ⟨rfl,
      Tree.read_of_write hwrite (made.walk_settingsPath_ne_device hpath), fun l content hne => ?_⟩⟩
    rw [Session.tree_later] at hne ⊢
    obtain ⟨hdirectories, hothers⟩ := Tree.write_others hwrite
    rw [hothers l fun hl => hne (Tree.location_mono hdirectories hl)]
    exact hsame l content

end Save

end Action

/-- **Saving.** Without a path for the settings nothing happens. Otherwise saving touches no file but the
settings file. If it succeeds, there is no obstacle in the table, and all of it is in the file. If it
fails, either a path is at fault, there was no settings file, and no file has changed; or there is an
obstacle in the table, null or an integer of too many digits, and in the file there is what was written
before one was met. So where there is a settings file, saving fails exactly for an obstacle in the table,
and what the file held before is lost: there are no rights and no full disks for which it could fail as
well. -/
theorem saving_fails_by_path_or_obstacle (config : Table) (s : Session) :
    let written := octetsOf (Toml.writeTable config).text
    let result := ((Action.saveSettings config).outcome s).1
    let s' := ((Action.saveSettings config).outcome s).2
    (s.settingsPath? = none → result = .error (.unexplained .homeless) ∧ s' = s) ∧
    ∀ path, s.settingsPath? = some path →
      (∃ tree, s' = s.later tree []) ∧
      (∀ l content, s'.tree.location? path ≠ some l →
        (s'.tree.node? l = some (.file content) ↔ s.tree.node? l = some (.file content))) ∧
      (∀ found, result = .ok found → found = path ∧
        (∀ o : Toml.Obstacle, ¬ o.In (.table config)) ∧ s'.tree.read path = .ok written) ∧
      (∀ e, result = .error e →
        (∃ other fault, e = .unexplained (.file other fault)) ∧ s.tree.isFile path = false ∧
          s.tree.SameFiles s'.tree ∨
        (∃ o : Toml.Obstacle, e = .unexplained (Action.faultOf o) ∧ o.In (.table config)) ∧
          s'.tree.read path = .ok written) ∧
      (s.tree.isFile path = true →
        ((∃ e, result = .error e) ↔ ∃ o : Toml.Obstacle, o.In (.table config))) := by
  intro written result s'
  constructor
  · intro hnone
    have hsave := Action.outcome_saveSettings_none hnone config
    exact ⟨congrArg Prod.fst hsave, congrArg Prod.snd hsave⟩
  intro path hpath
  have hlast : s.tree.isFile path = true →
      ((∃ e, result = .error e) ↔ ∃ o : Toml.Obstacle, o.In (.table config)) := by
    intro hfile
    have hresult : result = Action.saved path (Toml.writeTable config) :=
      Action.saveSettings_of_isFile hpath hfile config
    rw [hresult]
    exact Action.saved_fails_iff
  obtain ⟨htree, ⟨⟨other, fault, hresult⟩, hnone, hsame⟩ | ⟨hresult, hread, hothers⟩⟩ :=
    Action.stopped_or_saved hpath (show (Action.saveSettings config).outcome s = (result, s') from rfl)
  · refine ⟨htree, fun l content _ => hsame l content, fun found h => ?_, fun e h => .inl ?_, hlast⟩
    · rw [hresult] at h
      cases h
    · exact ⟨⟨other, fault, Except.error.inj (h.symm.trans hresult)⟩, hnone, hsame⟩
  · refine ⟨htree, hothers, fun found h => ?_, fun e h => .inr ?_, hlast⟩
    · obtain ⟨hfound, hfree⟩ := Action.saved_eq_ok_iff.1 (hresult.symm.trans h)
      exact ⟨hfound.symm, hfree, hread⟩
    · exact ⟨Action.saved_eq_error (hresult.symm.trans h), hread⟩

/-- A settings file that is lost: null is saved over it, and then the default level is in force again. -/
theorem failed_save_empties_file :
    let directory := ["home", ".config", "cssrename"]
    let path := "home/.config/cssrename/config.toml"
    let before := octetsOf "[logging]\nlevel = \"debug\"\n"
    let s := Session.start ((Tree.empty.placeDirectories [] directory).place
      (directory ++ ["config.toml"]) (.file before)) [("HOME", "home")] Web.unreachable
    let saved := (Action.saveSettings [("a", .null)]).outcome s
    s.settingsPath? = some path ∧ saved.1 = .error (.unexplained .unsuitable) ∧
    s.tree.read path = .ok before ∧ saved.2.tree.read path = .ok [] ∧
    (∃ config settings, (Action.loadSettings.outcome s).1 = .ok (config, settings) ∧
      settings.level = .debug) ∧
    ∃ config settings, (Action.loadSettings.outcome saved.2).1 = .ok (config, settings) ∧
      settings.level = .info := by
  intro directory path before s saved
  have hlevel {result : Except Failure (Table × Settings)} {level : Level}
      (h : gives (fun loaded => loaded.2.level = level) result = true) :
      ∃ config settings, result = .ok (config, settings) ∧ settings.level = level := by
    obtain ⟨⟨config, settings⟩, hresult, hlevel⟩ := exists_of_gives h
    exact ⟨config, settings, hresult, of_decide_eq_true hlevel⟩
  have hread {result : Except FileFault Octets} {content : Octets}
      (h : gives (fun found => found = content) result = true) : result = .ok content := by
    obtain ⟨found, hresult, hfound⟩ := exists_of_gives h
    rw [hresult, of_decide_eq_true hfound]
  exact ⟨by decide +kernel, eq_error_of_fallsThrough (by decide +kernel), hread (by decide +kernel),
    hread (by decide +kernel), hlevel (by decide +kernel), hlevel (by decide +kernel)⟩

end Restyle
