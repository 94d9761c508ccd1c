import Restyle.Proofs.Documents
import Restyle.Proofs.Loading
import Restyle.Proofs.PathsBelow

/-!
# Saved settings

Settings that were loaded and saved are loaded again as they were (`settings_saved_load_again`). Saving
writes to the path that loading reads (`Action.exists_of_saveSettings`), what was written there is
read again, and merging it into the defaults once more changes nothing but the order of fields.
-/

namespace Restyle

open Text

/-! ## Settings of tables that agree -/

namespace Settings

variable {config other : Table} {settings : Settings}

theorem proper_defaults : (Value.table defaults).Proper := by
  have hscalar (s : String) : (Value.text s).Proper := .scalar rfl
  have hsection (key : String) {v : Value} (hv : v.Proper) : (Value.table [(key, v)]).Proper :=
    .table (List.nodup_singleton key) (by simpa using hv)
  have hendings : (Value.list (FileSet.defaultEndings.map .text)).Proper := by
    refine .list fun item hitem => ?_
    obtain ⟨s, -, rfl⟩ := List.mem_map.1 hitem
    exact hscalar s
  refine .table (by decide) fun field hfield => ?_
  simp only [defaults, List.mem_cons, List.not_mem_nil, or_false] at hfield
  rcases hfield with rfl | rfl | rfl
  · exact hsection _ (hscalar _)
  · exact hsection _ hendings
  · exact hsection _ (hscalar _)

theorem mapM_nonEmptyText? {texts : List String} (h : ∀ s ∈ texts, s ≠ "") :
    (texts.map Value.text).mapM nonEmptyText? = some texts := by
  induction texts with
  | nil => rfl
  | cons s texts ih =>
    rw [List.forall_mem_cons] at h
    rw [List.map_cons, List.mapM_cons, nonEmptyText?, if_neg h.1, ih h.2]
    rfl

/-- Settings that stand in a table are read from it. -/
theorem ofTable_of_holds (h : Holds config settings) : ofTable config = .ok settings := by
  have hsetting {name key : String} {v : Value} (h : ∃ fields,
      Table.get? config name = some (.table fields) ∧ Table.get? fields key = some v) :
      setting config name key = .ok v := by
    obtain ⟨fields, hfields, hv⟩ := h
    rw [setting, hfields]
    simp only [hv, Option.getD_some]
  have hlevel : levelOf (.text settings.level.name) = .ok settings.level := by
    cases settings.level <;> rfl
  have hendings : endingsOf (.list (settings.endings.map .text)) = .ok settings.endings := by
    rw [endingsOf, mapM_nonEmptyText? h.endings_ne]
  have hpath : summaryPathOf (.text settings.summaryPath) = .ok settings.summaryPath := by
    rw [summaryPathOf, nonEmptyText?, if_neg h.summaryPath_ne]
  rw [ofTable, bind_of_ok (hsetting h.level), bind_of_ok hlevel, bind_of_ok (hsetting h.endings),
    bind_of_ok hendings, bind_of_ok (hsetting h.summaryPath), bind_of_ok hpath]
  rfl

/-- Tables that agree hold the same settings. -/
theorem Holds.of_agrees (h : Holds config settings)
    (hagree : (Value.table config).agrees (.table other) = true) : Holds other settings := by
  have hkept {name key : String} {v : Value} (hfield : ∃ fields,
      Table.get? config name = some (.table fields) ∧ Table.get? fields key = some v) :
      ∃ fields w, Table.get? other name = some (.table fields) ∧ Table.get? fields key = some w ∧
        v.agrees w = true := by
    obtain ⟨fields, hfields, hv⟩ := hfield
    obtain ⟨x, hx, hsection⟩ := Value.exists_of_agrees hagree hfields
    obtain ⟨others, rfl⟩ := Value.exists_table_of_agrees hsection
    obtain ⟨w, hw, hvalue⟩ := Value.exists_of_agrees hsection hv
    exact ⟨others, w, hx, hw, hvalue⟩
  refine ⟨?_, ?_, h.endings_ne, ?_, h.summaryPath_ne⟩
  · obtain ⟨fields, w, hfields, hw, hvalue⟩ := hkept h.level
    exact ⟨fields, hfields, Value.eq_text_of_agrees hvalue ▸ hw⟩
  · obtain ⟨fields, w, hfields, hw, hvalue⟩ := hkept h.endings
    exact ⟨fields, hfields, Value.eq_texts_of_agrees hvalue ▸ hw⟩
  · obtain ⟨fields, w, hfields, hw, hvalue⟩ := hkept h.summaryPath
    exact ⟨fields, hfields, Value.eq_text_of_agrees hvalue ▸ hw⟩

end Settings

/-! ## The path of the settings file -/

/-- The path of the settings file depends on the environment and the account only. -/
theorem Session.settingsPath?_later (s : Session) (tree : Tree) (more : List String) :
    (s.later tree more).settingsPath? = s.settingsPath? := by
  simp only [settingsPath?, configDirectory?, home?, env?, later]

/-- The last step to the settings file is its name. -/
theorem Session.pieces_settingsPath {s : Session} {path : String}
    (h : s.settingsPath? = some path) : ∃ front, Path.pieces path = front ++ ["config.toml"] := by
  rw [settingsPath?, Option.map_eq_some_iff] at h
  obtain ⟨base, -, rfl⟩ := h
  have hname : Path.pieces "config.toml" = ["config.toml"] :=
    Path.pieces_of_slash_not_mem (by decide)
  have hdirectory : Path.join base "cssrename" ≠ "" := by
    by_cases hempty : base = ""
    · rw [hempty, Path.join_empty]
      decide
    · exact Path.join_ne_empty hempty (by decide)
  have hsteps : (Path.pieces (Path.join (Path.join base "cssrename") "config.toml")).filter
      Path.isStep = (Path.stem (Path.join base "cssrename")).filter Path.isStep ++
        ["config.toml"] := by
    rw [Path.pieces_join hdirectory (by decide), hname, List.filter_append]
    rfl
  have hnames (name : String) (h : name ∈
      (Path.stem (Path.join base "cssrename")).filter Path.isStep ++ ["config.toml"]) :
      Path.slash ∉ name.toList :=
    (Path.isName_of_mem_steps (hsteps ▸ h)).slash_not_mem
  obtain ⟨k, hpieces⟩ := Path.exists_pieces_root_append
    (Path.join (Path.join base "cssrename") "config.toml") (by simp) hnames
  rw [← List.append_assoc, ← Path.normal_eq (by simp) hsteps] at hpieces
  exact ⟨_, hpieces⟩

/-- The settings file is not the null device. -/
theorem Tree.walk_settingsPath_ne_device (t : Tree) {s : Session} {path : String}
    (hpath : s.settingsPath? = some path) : t.walk path ≠ .ok .device := by
  intro h
  obtain ⟨front, hpieces⟩ := Session.pieces_settingsPath hpath
  exact absurd (eq_of_walk_device hpieces h) (by decide)

/-! ## Saving -/

namespace Action

variable {β γ : Type}

/-- An action that changes nothing but the tree. -/
def ChangesTree (a : Action β) : Prop :=
  ∀ s, ∃ tree, (a.outcome s).2 = s.later tree []

theorem changesTree_pure (b : β) : ChangesTree (pure b) :=
  fun s => ⟨s.tree, s.later_self.symm⟩

theorem changesTree_throw (e : Failure) : ChangesTree (throw e : Action β) :=
  fun s => ⟨s.tree, s.later_self.symm⟩

theorem changesTree_observe (f : Tree → β) : ChangesTree (observe f) :=
  fun s => ⟨s.tree, s.later_self.symm⟩

theorem ChangesTree.bind {a : Action β} {f : β → Action γ} (ha : a.ChangesTree)
    (hf : ∀ b, (f b).ChangesTree) : (a >>= f).ChangesTree := by
  intro s
  obtain ⟨tree, htree⟩ := ha s
  cases h : a.outcome s with
  | mk result s' =>
    obtain rfl : s' = s.later tree [] := by rw [← htree, h]
    cases result with
    | error e => exact ⟨tree, by rw [outcome_bind_error h]⟩
    | ok b =>
      obtain ⟨tree', htree'⟩ := hf b (s.later tree [])
      exact ⟨tree', by rw [outcome_bind_ok h, htree', Session.later_later]; rfl⟩

theorem changesTree_unlessDirectory (path : String) (f : FileFault) :
    ChangesTree (unlessDirectory path f) := by
  refine (changesTree_observe _).bind fun isThere => ?_
  split
  · exact changesTree_pure ()
  · exact changesTree_throw _

theorem changesTree_tryMakeDirectory (path : String) : ChangesTree (tryMakeDirectory path) := by
  refine (changesTree_observe _).bind fun made => ?_
  cases made with
  | ok tree => exact fun s => ⟨tree, by rw [Session.later, List.append_nil]; rfl⟩
  | error f => exact changesTree_pure _

/-- Making directories changes nothing but the tree. -/
theorem changesTree_makeDirectories (root : String) (names : List String) :
    ChangesTree (makeDirectories root names) := by
  induction names with
  | nil => exact changesTree_pure ()
  | cons name above ih =>
    unfold makeDirectories
    refine (changesTree_tryMakeDirectory _).bind fun found => ?_
    split
    · exact changesTree_pure ()
    · refine ih.bind fun _ => (changesTree_tryMakeDirectory _).bind fun found => ?_
      split
      · exact changesTree_pure ()
      · exact changesTree_unlessDirectory _ _
    · exact changesTree_unlessDirectory _ _

/-- Saving that succeeds has written the whole table to the settings file, after it made directories
for it. -/
theorem exists_of_saveSettings {config : Table} {s s' : Session} {path : String}
    (h : (saveSettings config).outcome s = (.ok path, s')) : s.settingsPath? = some path ∧
      ∃ made tree : Tree,
        made.write path (octetsOf (Toml.writeTable config).text) = .ok tree ∧
        s' = s.later tree [] := by
  unfold saveSettings at h
  cases hpath : s.settingsPath? with
  | none =>
    rw [outcome_bind_error (outcome_settingsPath_none hpath)] at h
    cases h
  | some target =>
  rw [outcome_bind_ok (outcome_settingsPath_some hpath)] at h
  dsimp only at h
  generalize Toml.writeTable config = written at h ⊢
  generalize ((Path.pieces target).filter Path.isStep).dropLast.reverse = names at h
  obtain ⟨made, hmade⟩ := changesTree_makeDirectories (Path.root target) names s
  cases hdirectories : (makeDirectories (Path.root target) names).outcome s with
  | mk result before =>
  obtain rfl : before = s.later made [] := by rw [← hmade, hdirectories]
  cases result with
  | error e =>
    rw [outcome_bind_error hdirectories] at h
    cases h
  | ok _ =>
  rw [outcome_bind_ok hdirectories] at h
  cases hwrite : made.write target (octetsOf written.text) with
  | error fault =>
    rw [outcome_bind_error (outcome_change_error _ _ hwrite)] at h
    cases h
  | ok tree =>
  rw [outcome_bind_ok (outcome_change_ok _ _ hwrite), Session.later_later, List.append_nil] at h
  split at h
  · cases h
    exact ⟨rfl, made, tree, hwrite, rfl⟩
  · cases h

end Action

/-! ## Loading what was saved -/

namespace Tree

variable {t tree : Tree} {path : String}

/-- A file that was written holds what was written. -/
theorem read_of_write {content : Octets} (h : t.write path content = .ok tree)
    (hdevice : t.walk path ≠ .ok .device) : tree.read path = .ok content := by
  obtain ⟨l, hwalk⟩ := walk_of_write h hdevice
  rw [read, hwalk]
  rfl

theorem proper_ownSettings {own : Table} (h : t.ownSettings path = .ok own) :
    (Value.table own).Proper := by
  obtain ⟨found, -, h⟩ := exists_of_bind_ok h
  split at h
  · unfold settingsIn at h
    split at h
    · cases h
    · split at h
      · cases h
      · split at h
        · rename_i own' hread
          cases h
          exact Toml.proper_readTable hread
        · cases h
        · cases h
  · cases h
    exact Toml.proper_empty

/-- A table of settings in force is the user's own one, merged into the defaults. -/
theorem exists_own_of_settings {config : Table} {settings : Settings}
    (h : t.settings path = .ok (config, settings)) : ∃ own : Table,
      (Value.table own).Proper ∧ config = mergeTable Settings.defaults own := by
  obtain ⟨own, hown, h⟩ := exists_of_bind_ok h
  refine ⟨own, proper_ownSettings hown, ?_⟩
  unfold Settings.ofOwn at h
  dsimp only at h
  cases htable : Settings.ofTable (mergeTable Settings.defaults own) with
  | error e =>
    rw [htable] at h
    cases h
  | ok found =>
    rw [htable] at h
    cases h
    rfl

/-- A file with a well-formed document has the settings of its table. -/
theorem settings_of_document {document : String} {own : Table}
    (hread : t.read path = .ok (octetsOf document)) (hdocument : Toml.readTable document = .ok own) :
    t.settings path = Settings.ofOwn own := by
  have hown : t.ownSettings path = .ok own := by
    rw [ownSettings_of_read hread, settingsIn, hread]
    simp only [decodeStrict_octetsOf, hdocument]
  rw [settings, bind_of_ok hown]

/-- A file with what was written for settings in force has the same settings, and the same table up to
the order of fields. -/
theorem settings_of_saved {config reread : Table} {settings : Settings}
    (h : t.settings path = .ok (config, settings))
    (hread : tree.read path = .ok (octetsOf (Toml.writeTable config).text))
    (hreread : Toml.readTable (Toml.writeTable config).text = .ok reread)
    (hagrees : (Value.table config).agrees (.table reread) = true) : ∃ again : Table,
      tree.settings path = .ok (again, settings) ∧
      (Value.table config).agrees (.table again) = true ∧
      (Value.table config).Proper ∧ (Value.table again).Proper := by
  obtain ⟨own, hown, hconfig⟩ := exists_own_of_settings h
  have hproper := Toml.proper_readTable hreread
  have hmerged := proper_mergeTable Settings.proper_defaults hown
  -- The defaults are merged in twice, which comes to the same as once.
  have hagain : (Value.table config).agrees (.table (mergeTable Settings.defaults reread)) = true := by
    rw [hconfig] at hagrees ⊢
    have hmerge := Value.agrees_mergeTable Settings.proper_defaults hmerged hproper hagrees
    rwa [mergeTable_absorb Settings.proper_defaults hown] at hmerge
  have hholds := (holds_of_settings h).of_agrees hagain
  refine ⟨mergeTable Settings.defaults reread, ?_, hagain, hconfig ▸ hmerged,
    proper_mergeTable Settings.proper_defaults hproper⟩
  rw [settings_of_document hread hreread, Settings.ofOwn]
  simp only [Settings.ofTable_of_holds hholds]
  rfl

end Tree

/-- **Saved settings.** Settings that were loaded and then saved are loaded again from the path that they
were saved to: the same settings, and the same table up to the order of fields, where no key stands
twice. What was written for the table has to be read as this table, up to the order of fields. -/
theorem settings_saved_load_again {s s' : Session} {config reread : Table} {settings : Settings}
    {path : String} (hload : (Action.loadSettings.outcome s).1 = .ok (config, settings))
    (hsave : (Action.saveSettings config).outcome s = (.ok path, s'))
    (hreread : Toml.readTable (Toml.writeTable config).text = .ok reread)
    (hagrees : (Value.table config).agrees (.table reread) = true) :
    s'.settingsPath? = some path ∧ ∃ again : Table,
      Action.loadSettings.outcome s' = (.ok (again, settings), s') ∧
      (Value.table config).agrees (.table again) = true ∧
      (Value.table config).Proper ∧ (Value.table again).Proper := by
  obtain ⟨hpath, made, tree, hwrite, hs'⟩ := Action.exists_of_saveSettings hsave
  have hsame : s'.settingsPath? = some path := by
    rw [hs', s.settingsPath?_later, hpath]
  have htree : s'.tree = tree := by rw [hs', Session.tree_later]
  rw [Action.outcome_loadSettings hpath] at hload
  have hread : s'.tree.read path = .ok (octetsOf (Toml.writeTable config).text) := by
    rw [htree]
    exact Tree.read_of_write hwrite (made.walk_settingsPath_ne_device hpath)
  obtain ⟨again, hagain, hrest⟩ := Tree.settings_of_saved hload hread hreread hagrees
  refine ⟨hsame, again, ?_, hrest⟩
  rw [Action.outcome_loadSettings hsame, hagain]

/-- A file with a field of its own in a section, and with one above all sections: it is merged in behind
the sections and written before them. -/
theorem settings_saved_load_again_reordered :
    let s := Session.start ((Tree.empty.placeDirectories [] ["c", "cssrename"]).place
      ["c", "cssrename", "config.toml"] (.file (octetsOf "a = 1\n[summary]\nb = []\n")))
      [("XDG_CONFIG_HOME", "c")] Web.unreachable
    ∃ config settings path s' reread,
      (Action.loadSettings.outcome s).1 = .ok (config, settings) ∧
      (Action.saveSettings config).outcome s = (.ok path, s') ∧
      Toml.readTable (Toml.writeTable config).text = .ok reread ∧
      (Value.table config).agrees (.table reread) = true ∧
      Table.keys config = ["logging", "files", "summary", "a"] ∧
      Table.keys reread = ["a", "logging", "files", "summary"] ∧
      path = "c/cssrename/config.toml" ∧
      ∃ again, Action.loadSettings.outcome s' = (.ok (again, settings), s') ∧
        (Value.table config).agrees (.table again) = true := by
  intro s
  -- The kernel loads, saves and reads again; what comes of it is compared where it can be.
  have htest : gives (fun (loaded : Table × Settings) =>
      gives (fun path => path = "c/cssrename/config.toml")
        ((Action.saveSettings loaded.1).outcome s).1 &&
      gives (fun reread => (Value.table loaded.1).agrees (.table reread) &&
        (Table.keys loaded.1 = ["logging", "files", "summary", "a"] ∧
          Table.keys reread = ["a", "logging", "files", "summary"] : Bool))
        (Toml.readTable (Toml.writeTable loaded.1).text))
      (Action.loadSettings.outcome s).1 = true := by
    decide +kernel
  obtain ⟨⟨config, settings⟩, hload, hpass⟩ := exists_of_gives htest
  rw [Bool.and_eq_true] at hpass
  obtain ⟨path, hsave, hpath⟩ := exists_of_gives hpass.1
  obtain ⟨reread, hreread, hcompare⟩ := exists_of_gives hpass.2
  rw [Bool.and_eq_true, decide_eq_true_eq] at hcompare
  obtain ⟨hagrees, hkeys, hkeys'⟩ := hcompare
  have hsaved : (Action.saveSettings config).outcome s =
      (.ok path, ((Action.saveSettings config).outcome s).2) := by
    rw [← hsave]
  obtain ⟨-, again, hagain, hsame, -⟩ := settings_saved_load_again hload hsaved hreread hagrees
  exact ⟨config, settings, path, _, reread, hload, hsaved, hreread, hagrees, hkeys, hkeys',
    of_decide_eq_true hpath, again, hagain, hsame⟩

end Restyle
