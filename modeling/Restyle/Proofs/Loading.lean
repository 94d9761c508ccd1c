import Restyle.Proofs.Actions
import Restyle.Proofs.Results
import Restyle.Settings.File

/-!
# Loading settings

Loading looks at the settings file only, so it is a function of the tree and of the path of that file
(`Action.outcome_loadSettings`). A table that is merged into the defaults has all three sections
(`Settings.hasSections_mergeTable`), and settings that are read from it stand in it
(`Settings.holds_of_ofTable`).

What is left are the failures that nobody explains. They come from four sources: a path that is too
long, octets that are no text, a number that is too long, and a section that is no table or a level
that cannot be shown (`Tree.Trouble`).
-/

namespace Restyle

open Text

/-! ## Sections -/

namespace Table

theorem has_put {fields : Table} {other : String} (h : has fields other = true) (key : String)
    (value : Value) : has (put fields key value) other = true := by
  unfold has at *
  by_cases hkey : other = key
  · rw [hkey, get?_put_self]
    rfl
  · rw [get?_put_of_ne fields value hkey]
    exact h

theorem has_mergeTable {base : Table} {key : String} (h : has base key = true)
    (own : List (String × Value)) : has (mergeTable base own) key = true := by
  induction own generalizing base with
  | nil => exact h
  | cons field rest ih =>
    rw [mergeTable]
    apply ih
    exact has_put h _ _

end Table

namespace Settings

/-- A table with all sections of settings, whatever they are. -/
structure HasSections (config : Table) : Prop where
  logging : Table.has config "logging" = true
  files : Table.has config "files" = true
  summary : Table.has config "summary" = true

/-- Merging a table into the defaults removes no section. -/
theorem hasSections_mergeTable (own : Table) : HasSections (mergeTable defaults own) where
  logging := Table.has_mergeTable (by decide) own
  files := Table.has_mergeTable (by decide) own
  summary := Table.has_mergeTable (by decide) own

/-- A section that is there, but is no table. -/
def NoTable (config : Table) (name : String) : Prop :=
  ∃ found, Table.get? config name = some found ∧ ∀ fields, found ≠ .table fields

variable {config : Table} {name key : String} {v : Value}

theorem exists_fields_of_setting (h : setting config name key = .ok v) : ∃ fields,
    Table.get? config name = some (.table fields) ∧ v = (Table.get? fields key).getD .null := by
  unfold setting at h
  split at h
  · cases h
  · rename_i fields hfields
    cases h
    exact ⟨fields, hfields, rfl⟩
  · cases h

theorem setting_of_noTable (h : NoTable config name) (key : String) :
    setting config name key = .error (.notSection name) := by
  obtain ⟨found, hfound, hno⟩ := h
  unfold setting
  rw [hfound]
  cases found with
  | table fields => exact absurd rfl (hno fields)
  | _ => rfl

theorem noTable_of_setting {e : SettingsError} (hname : Table.has config name = true)
    (h : setting config name key = .error e) : NoTable config name ∧ e = .notSection name := by
  obtain ⟨found, hfound⟩ := Option.isSome_iff_exists.1 hname
  have hno : NoTable config name := by
    refine ⟨found, hfound, ?_⟩
    rintro fields rfl
    unfold setting at h
    rw [hfound] at h
    cases h
  rw [setting_of_noTable hno] at h
  exact ⟨hno, (Except.error.inj h).symm⟩

/-! ## Single settings -/

theorem levelNamed?_eq_some {level : Level} (h : levelNamed? v = some level) :
    v = .text level.name := by
  cases v with
  | text s =>
    have hname := List.find?_some h
    rw [of_decide_eq_true hname]
  | _ => cases h

theorem levelOf_eq_ok {level : Level} (h : levelOf v = .ok level) : v = .text level.name := by
  apply levelNamed?_eq_some
  unfold levelOf at h
  split at h
  · rename_i found hfound
    rw [hfound, Except.ok.inj h]
  · cases h

/-- A level that is refused is named in the message, if it can be shown. -/
theorem levelOf_eq_error {e : SettingsError} (h : levelOf v = .error e) :
    (∃ f, e = .fault f) ∨ v.isShowable = false := by
  unfold levelOf at h
  split at h
  · cases h
  · by_cases hshow : v.isShowable = true
    · rw [if_pos hshow] at h
      exact .inl ⟨_, (Except.error.inj h).symm⟩
    · exact .inr (Bool.eq_false_iff.2 hshow)

theorem levelOf_of_not_showable (h : v.isShowable = false) : levelOf v = .error .unshowable := by
  unfold levelOf
  have hnone : levelNamed? v = none := by
    cases v with
    | text s => cases h
    | _ => rfl
  rw [hnone, h]
  rfl

theorem nonEmptyText?_eq_some {s : String} (h : nonEmptyText? v = some s) :
    v = .text s ∧ s ≠ "" := by
  cases v with
  | text found =>
    by_cases hempty : found = ""
    · rw [nonEmptyText?, if_pos hempty] at h
      cases h
    · rw [nonEmptyText?, if_neg hempty] at h
      obtain rfl := Option.some.inj h
      exact ⟨rfl, hempty⟩
  | _ => cases h

theorem eq_map_text_of_mapM {items : List Value} {texts : List String}
    (h : items.mapM nonEmptyText? = some texts) :
    items = texts.map .text ∧ ∀ s ∈ texts, s ≠ "" := by
  induction items generalizing texts with
  | nil =>
    cases h
    exact ⟨rfl, by simp⟩
  | cons item rest ih =>
    rw [List.mapM_cons] at h
    obtain ⟨s, hs, h⟩ := Option.bind_eq_some_iff.1 h
    obtain ⟨others, hothers, h⟩ := Option.bind_eq_some_iff.1 h
    obtain rfl : s :: others = texts := Option.some.inj h
    obtain ⟨rfl, hne⟩ := nonEmptyText?_eq_some hs
    obtain ⟨rfl, hall⟩ := ih hothers
    refine ⟨rfl, ?_⟩
    rw [List.forall_mem_cons]
    exact ⟨hne, hall⟩

theorem endingsOf_eq_ok {endings : List String} (h : endingsOf v = .ok endings) :
    v = .list (endings.map .text) ∧ ∀ ending ∈ endings, ending ≠ "" := by
  unfold endingsOf at h
  split at h
  · rename_i items
    split at h
    · rename_i found hfound
      cases h
      obtain ⟨rfl, hne⟩ := eq_map_text_of_mapM hfound
      exact ⟨rfl, hne⟩
    · cases h
  · cases h

theorem endingsOf_eq_error {e : SettingsError} (h : endingsOf v = .error e) : ∃ f, e = .fault f := by
  unfold endingsOf at h
  split at h
  · split at h
    · cases h
    · exact ⟨_, (Except.error.inj h).symm⟩
  · exact ⟨_, (Except.error.inj h).symm⟩

theorem summaryPathOf_eq_ok {path : String} (h : summaryPathOf v = .ok path) :
    v = .text path ∧ path ≠ "" := by
  apply nonEmptyText?_eq_some
  unfold summaryPathOf at h
  split at h
  · rename_i found hfound
    rw [hfound, Except.ok.inj h]
  · cases h

theorem summaryPathOf_eq_error {e : SettingsError} (h : summaryPathOf v = .error e) :
    ∃ f, e = .fault f := by
  unfold summaryPathOf at h
  split at h
  · cases h
  · exact ⟨_, (Except.error.inj h).symm⟩

/-! ## The settings of a table -/

/-- Settings that stand in a table where they belong: the level by its name, the endings as a list of
texts and the path of the summary as a text, none of them empty. -/
structure Holds (config : Table) (settings : Settings) : Prop where
  level : ∃ fields, Table.get? config "logging" = some (.table fields) ∧
    Table.get? fields "level" = some (.text settings.level.name)
  endings : ∃ fields, Table.get? config "files" = some (.table fields) ∧
    Table.get? fields "extensions" = some (.list (settings.endings.map .text))
  endings_ne : ∀ ending ∈ settings.endings, ending ≠ ""
  summaryPath : ∃ fields, Table.get? config "summary" = some (.table fields) ∧
    Table.get? fields "path" = some (.text settings.summaryPath)
  summaryPath_ne : settings.summaryPath ≠ ""

/-- A setting that is something stands in its section. -/
theorem get?_of_setting (h : setting config name key = .ok v) (hv : v ≠ .null) : ∃ fields,
    Table.get? config name = some (.table fields) ∧ Table.get? fields key = some v := by
  obtain ⟨fields, hfields, rfl⟩ := exists_fields_of_setting h
  refine ⟨fields, hfields, ?_⟩
  cases hget : Table.get? fields key with
  | none =>
    rw [hget] at hv
    exact absurd rfl hv
  | some found => rfl

/-- The settings of a table stand in it. -/
theorem holds_of_ofTable {settings : Settings} (h : ofTable config = .ok settings) :
    Holds config settings := by
  unfold ofTable at h
  obtain ⟨found, hfound, h⟩ := exists_of_bind_ok h
  obtain ⟨level, hlevel, h⟩ := exists_of_bind_ok h
  obtain ⟨listed, hlisted, h⟩ := exists_of_bind_ok h
  obtain ⟨endings, hendings, h⟩ := exists_of_bind_ok h
  obtain ⟨named, hnamed, h⟩ := exists_of_bind_ok h
  obtain ⟨path, hpath, h⟩ := exists_of_bind_ok h
  obtain rfl : (⟨level, endings, path⟩ : Settings) = settings := Except.ok.inj h
  obtain rfl := levelOf_eq_ok hlevel
  obtain ⟨rfl, hendings_ne⟩ := endingsOf_eq_ok hendings
  obtain ⟨rfl, hpath_ne⟩ := summaryPathOf_eq_ok hpath
  exact ⟨get?_of_setting hfound (by simp), get?_of_setting hlisted (by simp), hendings_ne,
    get?_of_setting hnamed (by simp), hpath_ne⟩

/-- A table whose settings are given up on without a message: a section is reached that is no table,
or the level cannot be shown. -/
inductive Unjudged (config : Table) : Prop
  | logging : NoTable config "logging" → Unjudged config
  | level {found : Value} : setting config "logging" "level" = .ok found →
      found.isShowable = false → Unjudged config
  | files {found : Value} {level : Level} : setting config "logging" "level" = .ok found →
      levelOf found = .ok level → NoTable config "files" → Unjudged config
  | summary {found listed : Value} {level : Level} {endings : List String} :
      setting config "logging" "level" = .ok found → levelOf found = .ok level →
      setting config "files" "extensions" = .ok listed → endingsOf listed = .ok endings →
      NoTable config "summary" → Unjudged config

theorem unjudged_of_error (hsections : HasSections config) {e : SettingsError}
    (h : ofTable config = .error e) : (∃ f, e = .fault f) ∨ Unjudged config := by
  unfold ofTable at h
  rcases exists_of_bind_error h with h | ⟨found, hfound, h⟩
  · exact .inr (.logging (noTable_of_setting hsections.logging h).1)
  rcases exists_of_bind_error h with h | ⟨level, hlevel, h⟩
  · exact (levelOf_eq_error h).imp_right (.level hfound)
  rcases exists_of_bind_error h with h | ⟨listed, hlisted, h⟩
  · exact .inr (.files hfound hlevel (noTable_of_setting hsections.files h).1)
  rcases exists_of_bind_error h with h | ⟨endings, hendings, h⟩
  · exact .inl (endingsOf_eq_error h)
  rcases exists_of_bind_error h with h | ⟨named, hnamed, h⟩
  · exact .inr (.summary hfound hlevel hlisted hendings (noTable_of_setting hsections.summary h).1)
  rcases exists_of_bind_error h with h | ⟨path, hpath, h⟩
  · exact .inl (summaryPathOf_eq_error h)
  · cases h

theorem error_of_unjudged (h : Unjudged config) :
    ∃ e f, ofTable config = .error e ∧ Failure.ofSettings e = .unexplained f := by
  unfold ofTable
  cases h with
  | logging hno =>
    refine ⟨.notSection "logging", _, ?_, rfl⟩
    exact bind_of_error (setting_of_noTable hno _)
  | level hfound hshow =>
    refine ⟨.unshowable, _, ?_, rfl⟩
    rw [bind_of_ok hfound]
    exact bind_of_error (levelOf_of_not_showable hshow)
  | files hfound hlevel hno =>
    refine ⟨.notSection "files", _, ?_, rfl⟩
    rw [bind_of_ok hfound, bind_of_ok hlevel]
    exact bind_of_error (setting_of_noTable hno _)
  | summary hfound hlevel hlisted hendings hno =>
    refine ⟨.notSection "summary", _, ?_, rfl⟩
    rw [bind_of_ok hfound, bind_of_ok hlevel, bind_of_ok hlisted, bind_of_ok hendings]
    exact bind_of_error (setting_of_noTable hno _)

end Settings

/-! ## The settings file -/

/-- The settings that are kept in a file, or why there are none. -/
def Tree.settingsIn (t : Tree) (path : String) : Except Failure Table :=
  match t.read path with
  | .error fault => .error (.settingsFile path (.file fault))
  | .ok content =>
    match decodeStrict content with
    | none => .error (.unexplained .undecodable)
    | some document =>
      match Toml.readTable document with
      | .ok own => .ok own
      | .error .malformed => .error (.settingsFile path .malformed)
      | .error .numberTooLong => .error (.unexplained .numberTooLong)

/-- Whether there is a settings file, or why that cannot be told. -/
def Tree.hasSettings (t : Tree) (path : String) : Except Failure Bool :=
  match t.walk path with
  | .error .nameTooLong => .error (.unexplained (.file path .nameTooLong))
  | .error _ => .ok false
  | .ok (.free _) => .ok false
  | .ok _ => .ok true

/-- The settings that are kept in a file, and none without one. -/
def Tree.ownSettings (t : Tree) (path : String) : Except Failure Table := do
  if ← t.hasSettings path then t.settingsIn path else pure []

/-- The settings in force where a table is the user's own: merged into the defaults, and read. -/
def Settings.ofOwn (own : Table) : Except Failure (Table × Settings) :=
  let config := mergeTable defaults own
  ((ofTable config).mapError .ofSettings).map fun settings => (config, settings)

/-- The settings in force with a settings file, as a table and as what it says. -/
def Tree.settings (t : Tree) (path : String) : Except Failure (Table × Settings) :=
  t.ownSettings path >>= Settings.ofOwn

namespace Action

theorem outcome_settingsExist (path : String) (s : Session) :
    (settingsExist path).outcome s = (s.tree.hasSettings path, s) := by
  unfold settingsExist Tree.hasSettings
  rw [outcome_bind_ok (outcome_observe _ s)]
  cases s.tree.walk path with
  | error fault => cases fault <;> rfl
  | ok place => cases place <;> rfl

theorem outcome_readSettingsFile (path : String) (s : Session) :
    (readSettingsFile path).outcome s = (s.tree.settingsIn path, s) := by
  unfold readSettingsFile Tree.settingsIn
  rw [outcome_bind_ok (outcome_observe _ s)]
  cases s.tree.read path with
  | error fault => exact outcome_bind_error (outcome_ofExcept_error _ fault s)
  | ok content =>
    rw [outcome_bind_ok (outcome_ofExcept_ok _ content s)]
    dsimp only
    cases decodeStrict content with
    | none => rfl
    | some document =>
      dsimp only
      cases Toml.readTable document with
      | ok own => rfl
      | error e => cases e <;> rfl

theorem outcome_settingsPath_some {s : Session} {path : String} (h : s.settingsPath? = some path) :
    settingsPath.outcome s = (.ok path, s) := by
  unfold settingsPath
  rw [outcome_bind_ok (outcome_get s), h]
  rfl

theorem outcome_settingsPath_none {s : Session} (h : s.settingsPath? = none) :
    settingsPath.outcome s = (.error (.unexplained .homeless), s) := by
  unfold settingsPath
  rw [outcome_bind_ok (outcome_get s), h]
  rfl

/-- Loading reads the settings and leaves the session as it is. -/
theorem outcome_loadSettings {s : Session} {path : String} (h : s.settingsPath? = some path) :
    loadSettings.outcome s = (s.tree.settings path, s) := by
  have hrest (own : Table) : (do
      let config := mergeTable Settings.defaults own
      let settings ← ofExcept .ofSettings (Settings.ofTable config)
      return (config, settings) : Action (Table × Settings)).outcome s =
        (Settings.ofOwn own, s) := by
    unfold Settings.ofOwn
    dsimp only
    cases Settings.ofTable (mergeTable Settings.defaults own) with
    | error e => exact outcome_bind_error (outcome_ofExcept_error _ e s)
    | ok settings => exact outcome_bind_ok (outcome_ofExcept_ok _ settings s)
  have hexist := outcome_settingsExist path s
  have hread := outcome_readSettingsFile path s
  unfold loadSettings Tree.settings Tree.ownSettings
  rw [outcome_bind_ok (outcome_settingsPath_some h)]
  cases hfound : s.tree.hasSettings path with
  | error e =>
    rw [hfound] at hexist
    exact outcome_bind_error hexist
  | ok found =>
    rw [hfound] at hexist
    rw [outcome_bind_ok hexist]
    cases found with
    | false => exact (outcome_bind_ok (outcome_pure [] s)).trans (hrest [])
    | true =>
      cases hown : s.tree.settingsIn path with
      | error e =>
        rw [hown] at hread
        exact outcome_bind_error hread
      | ok own =>
        rw [hown] at hread
        exact (outcome_bind_ok hread).trans (hrest own)

/-- Without a settings file the defaults are in force. -/
theorem loadSettings_of_absent {s : Session}
    (h : s.settingsPath?.map s.tree.walk = some (.error .notFound)) : (loadSettings.outcome s).1 =
      .ok (Settings.defaults,
        ⟨.info, FileSet.defaultEndings, Settings.defaultSummaryPath⟩) := by
  obtain ⟨path, hpath, hwalk⟩ := Option.map_eq_some_iff.1 h
  have habsent : s.tree.hasSettings path = .ok false := by
    rw [Tree.hasSettings, hwalk]
  rw [outcome_loadSettings hpath, Tree.settings, Tree.ownSettings, bind_of_ok habsent]
  rfl

theorem outcome_loadSettings_none {s : Session} (h : s.settingsPath? = none) :
    loadSettings.outcome s = (.error (.unexplained .homeless), s) := by
  unfold loadSettings
  exact outcome_bind_error (outcome_settingsPath_none h)

end Action

/-! ## Failures without a message -/

/-- What loading settings fails at without saying so: a path that is too long, octets that are no text,
a number that is too long, or a table that is given up on. -/
inductive Tree.Trouble (t : Tree) (path : String) : Prop
  | path : t.walk path = .error .nameTooLong → Trouble t path
  | octets {content : Octets} : t.read path = .ok content → decodeStrict content = none →
      Trouble t path
  | number {content : Octets} {document : String} : t.read path = .ok content →
      decodeStrict content = some document → Toml.readTable document = .error .numberTooLong →
      Trouble t path
  | table {content : Octets} {document : String} {own : Table} : t.read path = .ok content →
      decodeStrict content = some document → Toml.readTable document = .ok own →
      Settings.Unjudged (mergeTable Settings.defaults own) → Trouble t path

/-- A table that is the user's own is given up on, or it is refused with a message, or it gives
settings. -/
theorem Settings.ofOwn_cases (own : Table) : Unjudged (mergeTable defaults own) ∨
    (∃ fault, ofOwn own = .error (.settings fault)) ∨
    ∃ config settings, ofOwn own = .ok (config, settings) := by
  have hsections := hasSections_mergeTable own
  unfold ofOwn
  generalize mergeTable defaults own = config at *
  dsimp only
  cases h : ofTable config with
  | ok settings => exact .inr (.inr ⟨config, settings, rfl⟩)
  | error e =>
    rcases unjudged_of_error hsections h with ⟨f, rfl⟩ | hunjudged
    · exact .inr (.inl ⟨f, rfl⟩)
    · exact .inl hunjudged

namespace Tree

variable {t : Tree} {path : String}

theorem hasSettings_of_read {content : Octets} (h : t.read path = .ok content) :
    t.hasSettings path = .ok true := by
  obtain ⟨place, hw, hplace⟩ := exists_of_bind_ok h
  unfold hasSettings
  rw [hw]
  cases place with
  | free l => cases hplace
  | _ => rfl

theorem ownSettings_of_read {content : Octets} (h : t.read path = .ok content) :
    t.ownSettings path = t.settingsIn path := by
  unfold ownSettings
  exact bind_of_ok (hasSettings_of_read h)

/-- All these failures go without a message. -/
theorem Trouble.unexplained (h : t.Trouble path) :
    ∃ f, t.settings path = .error (.unexplained f) := by
  have hown {f : Fault} (h : t.ownSettings path = .error (.unexplained f)) :
      ∃ f, t.settings path = .error (.unexplained f) :=
    ⟨f, bind_of_error h⟩
  cases h with
  | path hw =>
    apply hown
    unfold ownSettings hasSettings
    rw [hw]
    rfl
  | octets hread hdecode =>
    apply hown
    rw [ownSettings_of_read hread, settingsIn, hread]
    simp only [hdecode]
    rfl
  | number hread hdecode hparse =>
    apply hown
    rw [ownSettings_of_read hread, settingsIn, hread]
    simp only [hdecode, hparse]
    rfl
  | @table content document own hread hdecode hparse hunjudged =>
    have hin : t.ownSettings path = .ok own := by
      rw [ownSettings_of_read hread, settingsIn, hread]
      simp only [hdecode, hparse]
    obtain ⟨e, f, he, hf⟩ := Settings.error_of_unjudged hunjudged
    refine ⟨f, ?_⟩
    rw [settings, bind_of_ok hin, Settings.ofOwn, he, ← hf]
    rfl

/-- Loading fails without a message, or with one, or it gives settings. -/
theorem settings_cases (t : Tree) (path : String) : t.Trouble path ∨
    (∃ fault, t.settings path = .error (.settings fault)) ∨
    (∃ cause, t.settings path = .error (.settingsFile path cause)) ∨
    ∃ config settings, t.settings path = .ok (config, settings) := by
  have hfile {cause : UnreadableCause}
      (h : t.ownSettings path = .error (.settingsFile path cause)) :
      ∃ cause, t.settings path = .error (.settingsFile path cause) :=
    ⟨cause, bind_of_error h⟩
  cases hexist : t.hasSettings path with
  | error e =>
    refine .inl (.path ?_)
    unfold hasSettings at hexist
    split at hexist
    · assumption
    all_goals cases hexist
  | ok found =>
  have hown : t.ownSettings path = if found = true then t.settingsIn path else .ok [] :=
    bind_of_ok hexist
  cases found with
  | false =>
    -- Without a file the defaults are in force.
    refine .inr (.inr (.inr ⟨Settings.defaults, ?_⟩))
    rw [settings, bind_of_ok hown]
    exact ⟨_, rfl⟩
  | true =>
  rw [if_pos rfl, settingsIn] at hown
  cases hread : t.read path with
  | error fault =>
    rw [hread] at hown
    exact .inr (.inr (.inl (hfile hown)))
  | ok content =>
  rw [hread] at hown
  cases hdecode : decodeStrict content with
  | none => exact .inl (.octets hread hdecode)
  | some document =>
  simp only [hdecode] at hown
  cases hparse : Toml.readTable document with
  | error e =>
    cases e with
    | malformed =>
      rw [hparse] at hown
      exact .inr (.inr (.inl (hfile hown)))
    | numberTooLong => exact .inl (.number hread hdecode hparse)
  | ok own =>
    rw [hparse] at hown
    rw [settings, bind_of_ok hown]
    rcases Settings.ofOwn_cases own with hunjudged | hfault | hok
    · exact .inl (.table hread hdecode hparse hunjudged)
    · exact .inr (.inl hfault)
    · exact .inr (.inr (.inr hok))

theorem holds_of_settings {config : Table} {settings : Settings}
    (h : t.settings path = .ok (config, settings)) : Settings.Holds config settings := by
  obtain ⟨own, -, h⟩ := exists_of_bind_ok h
  unfold Settings.ofOwn at h
  dsimp only at h
  cases htable : Settings.ofTable (mergeTable Settings.defaults own) with
  | error e =>
    rw [htable] at h
    cases h
  | ok found =>
    rw [htable] at h
    cases h
    exact Settings.holds_of_ofTable htable

end Tree

/-- **Loading.** Loading settings changes nothing. A table that it gives holds its settings where they
belong: one of the levels, endings that are not empty, and a path that is not empty. It gives one, or
says what is wrong with the table or the file, in every case but those of `Tree.Trouble`, where it
fails without a message. These are all cases in a tree where everything is permitted and no disk
fails, once there is a path to look at: without a home directory there may be none. -/
theorem settings_load_or_explain (s : Session) :
    let result := (Action.loadSettings.outcome s).1
    (Action.loadSettings.outcome s).2 = s ∧
    (s.settingsPath? = none → result = .error (.unexplained .homeless)) ∧
    ∀ path, s.settingsPath? = some path →
      (∀ config settings, result = .ok (config, settings) → Settings.Holds config settings) ∧
      ((∃ config settings, result = .ok (config, settings)) ∨
        (∃ fault, result = .error (.settings fault)) ∨
        (∃ cause, result = .error (.settingsFile path cause)) ↔ ¬ s.tree.Trouble path) ∧
      (s.tree.Trouble path ↔ ∃ f, result = .error (.unexplained f)) := by
  intro result
  have hresult {path : String} (hpath : s.settingsPath? = some path) :
      result = s.tree.settings path :=
    congrArg Prod.fst (Action.outcome_loadSettings hpath)
  refine ⟨?_, fun hnone => congrArg Prod.fst (Action.outcome_loadSettings_none hnone),
    fun path hpath => ?_⟩
  · cases hpath : s.settingsPath? with
    | none => exact congrArg Prod.snd (Action.outcome_loadSettings_none hpath)
    | some path => exact congrArg Prod.snd (Action.outcome_loadSettings hpath)
  rw [hresult hpath]
  refine ⟨fun config settings h => Tree.holds_of_settings h, ?_, ?_⟩
  · constructor
    · rintro h htrouble
      obtain ⟨f, hf⟩ := htrouble.unexplained
      rw [hf] at h
      rcases h with ⟨config, settings, h⟩ | ⟨fault, h⟩ | ⟨cause, h⟩ <;> cases h
    · intro hno
      rcases s.tree.settings_cases path with h | h | h | h
      · exact absurd h hno
      · exact .inr (.inl h)
      · exact .inr (.inr h)
      · exact .inl h
  · constructor
    · exact Tree.Trouble.unexplained
    · rintro ⟨f, hf⟩
      rcases s.tree.settings_cases path with h | ⟨fault, h⟩ | ⟨cause, h⟩ | ⟨config, settings, h⟩
      · exact h
      all_goals
        rw [hf] at h
        cases h

/-- Whether a result is a failure by a fault that no step explains. -/
def fallsThrough {β : Type} (f : Fault) : Except Failure β → Bool
  | .error (.unexplained found) => found = f
  | _ => false

theorem eq_error_of_fallsThrough {β : Type} {f : Fault} {x : Except Failure β}
    (h : fallsThrough f x = true) : x = .error (.unexplained f) := by
  unfold fallsThrough at h
  split at h
  · rw [of_decide_eq_true h]
  · cases h

/-- A settings file that is no text, and one with a section that is no table. -/
theorem settings_fail_unexplained :
    let directory := ["home", ".config", "cssrename"]
    let holding (content : Octets) := Session.start
      ((Tree.empty.placeDirectories [] directory).place (directory ++ ["config.toml"])
        (.file content)) [("HOME", "home")] Web.unreachable
    (Action.loadSettings.outcome (holding [0xFF])).1 = .error (.unexplained .undecodable) ∧
    (Action.loadSettings.outcome (holding (octetsOf "logging = 1\n"))).1 =
      .error (.unexplained .notSection) := by
  intro directory holding
  constructor
  · exact eq_error_of_fallsThrough (by decide +kernel)
  · exact eq_error_of_fallsThrough (by decide +kernel)

end Restyle
