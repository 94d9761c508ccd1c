import Restyle.CommandLine
import Restyle.Proofs.Course
import Restyle.Proofs.JsonText
import Restyle.Proofs.Listings
import Restyle.Proofs.Loading

/-!
# What the exit code tells

A run that ends with exit code 0 changed no file and leaves none at the summary path. One that ends
with 1 without an error changed something, and the summary file says what. Every failure is told from
that: it ends with a line that begins with `Error:`, or it is not explained at all.
-/

namespace Restyle

open Text

/-! ## Control sequences -/

namespace Text

theorem afterSequence?_of_ne {c : Char} (h : c ≠ '\x1b') (rest : List Char) :
    afterSequence? (c :: rest) = none := by
  unfold afterSequence?
  split
  · rename_i heq
    exact absurd (List.cons.inj heq).1 h
  · rfl

theorem dropSequences_append {front : List Char} (h : ∀ c ∈ front, c ≠ '\x1b') (rest : List Char) :
    dropSequences (front ++ rest) = front ++ dropSequences rest := by
  induction front with
  | nil => rfl
  | cons c front ih =>
    rw [List.forall_mem_cons] at h
    have hnone := afterSequence?_of_ne h.1 (front ++ rest)
    rw [List.cons_append, dropSequences]
    split
    · rename_i heq
      rw [hnone] at heq
      cases heq
    · dsimp only
      rw [ih h.2]
      rfl

/-- A plain text is printed as it is. -/
theorem withoutSequences_of_isPlain {s : String} (h : IsPlain s) : withoutSequences s = s := by
  have hne : ∀ c ∈ s.toList, c ≠ '\x1b' := by
    rintro c hc rfl
    exact absurd (h _ hc) (by decide)
  have hall := dropSequences_append hne []
  rw [List.append_nil] at hall
  have hnil : dropSequences [] = [] := by
    rw [dropSequences]
    rfl
  rw [withoutSequences, hall, hnil, List.append_nil, String.ofList_toList]

end Text

namespace CommandLine

/-! ## Error lines -/

/-- What an error line begins with. -/
def errorMark : String := "Error: "

/-- Whether a text has a line that begins as error lines do. -/
def ShowsError (text : String) : Prop :=
  ∃ line ∈ lines text, errorMark.toList <+: line.toList

instance : DecidablePred ShowsError := fun text =>
  inferInstanceAs (Decidable (∃ line ∈ lines text, errorMark.toList <+: line.toList))

theorem showsError_errorLine (messages : List String) (message : String) :
    ShowsError (String.join (messages.map (· ++ "\n")) ++ errorLine message) := by
  have hline : ∃ piece ∈ splitOn '\n' (errorLine message).toList, errorMark.toList <+: piece := by
    have hkept : (errorLine message).toList =
        errorMark.toList ++ (dropSequences message.toList ++ ['\n']) := by
      have hnone : '\x1b' ∉ errorMark.toList := by decide
      have hmark : ∀ c ∈ errorMark.toList, c ≠ '\x1b' := fun c hc e => hnone (e ▸ hc)
      rw [errorLine, withoutSequences, String.toList_append, String.toList_ofList,
        String.toList_append, ← errorMark, dropSequences_append hmark, List.append_assoc]
      rfl
    have hmark : '\n' ∉ errorMark.toList := by decide
    obtain ⟨piece, pieces, hsplit⟩ :=
      splitOn_append hmark (dropSequences message.toList ++ ['\n'])
    rw [hkept, hsplit]
    exact ⟨_, List.mem_cons_self, List.prefix_append _ _⟩
  have hall : ∃ piece ∈ splitOn '\n'
      (String.join (messages.map (· ++ "\n")) ++ errorLine message).toList,
      errorMark.toList <+: piece := by
    induction messages with
    | nil => exact hline
    | cons first rest ih =>
      obtain ⟨piece, hpiece, hmark⟩ := ih
      refine ⟨piece, ?_, hmark⟩
      have hsplit : (String.join ((first :: rest).map (· ++ "\n")) ++ errorLine message).toList =
          first.toList ++
            '\n' :: (String.join (rest.map (· ++ "\n")) ++ errorLine message).toList := by
        simp [String.toList_append]
      rw [hsplit, splitOn_append_sep]
      exact List.mem_append_right _ hpiece
  obtain ⟨piece, hpiece, hmark⟩ := hall
  exact ⟨String.ofList piece, List.mem_map_of_mem hpiece, by rwa [String.toList_ofList]⟩

/-- A command that failed shows an error, or its fault is not explained. -/
theorem shows_of_error {e : Failure} {s : Session}
    (hescaped : (outcomeOf (.error e) s).escaped = none) :
    ShowsError (outcomeOf (.error e) s).errors := by
  cases e with
  | unexplained f => cases hescaped
  | _ => exact showsError_errorLine _ _

theorem exitCode_of_error (e : Failure) (s : Session) : (outcomeOf (.error e) s).exitCode = 1 := by
  cases e <;> rfl

/-! ## Reading the settings -/

end CommandLine

namespace Action

variable {β γ : Type}

/-- An action that leaves the session as it is. -/
def Reads (a : Action β) : Prop :=
  ∀ s, ∃ result, a.outcome s = (result, s)

theorem reads_pure (b : β) : (pure b : Action β).Reads :=
  fun s => ⟨_, outcome_pure b s⟩

theorem reads_throw (e : Failure) : (throw e : Action β).Reads :=
  fun _ => ⟨_, rfl⟩

theorem reads_get : (get : Action Session).Reads :=
  fun s => ⟨_, outcome_get s⟩

theorem reads_observe (f : Tree → β) : (observe f).Reads :=
  fun s => ⟨_, outcome_observe f s⟩

theorem reads_ofExcept {ε : Type} (explain : ε → Failure) (x : Except ε β) :
    (ofExcept explain x).Reads := by
  cases x with
  | ok b => exact reads_pure b
  | error e => exact reads_throw _

theorem Reads.bind {a : Action β} {f : β → Action γ} (ha : a.Reads) (hf : ∀ b, (f b).Reads) :
    (a >>= f).Reads := by
  intro s
  obtain ⟨result, hout⟩ := ha s
  cases result with
  | error e => exact ⟨_, outcome_bind_error hout⟩
  | ok b =>
    obtain ⟨result', hout'⟩ := hf b s
    exact ⟨result', (outcome_bind_ok hout).trans hout'⟩

theorem reads_settingsExist (path : String) : (settingsExist path).Reads := by
  refine (reads_observe _).bind fun place => ?_
  split
  · exact reads_throw _
  · exact reads_pure _
  · exact reads_pure _
  · exact reads_pure _

theorem reads_readSettingsFile (path : String) : (readSettingsFile path).Reads := by
  refine (reads_observe _).bind fun found => (reads_ofExcept _ found).bind fun content => ?_
  split
  · exact reads_throw _
  · split
    · exact reads_pure _
    · exact reads_throw _
    · exact reads_throw _

theorem reads_settingsPath : settingsPath.Reads := by
  refine reads_get.bind fun s => ?_
  split
  · exact reads_pure _
  · exact reads_throw _

theorem reads_loadSettings : loadSettings.Reads := by
  refine reads_settingsPath.bind fun path => (reads_settingsExist _).bind fun exist => ?_
  have hrest (own : Table) : (do
      let config := mergeTable Settings.defaults own
      let settings ← ofExcept .ofSettings (Settings.ofTable config)
      return (config, settings) : Action (Table × Settings)).Reads :=
    (reads_ofExcept _ _).bind fun settings => reads_pure _
  cases exist with
  | true => exact (reads_readSettingsFile _).bind hrest
  | false => exact (reads_pure []).bind hrest

end Action

namespace CommandLine

/-- The settings of a command line depend on the environment alone, and say what is wrong. -/
theorem requiredSetting_of_environment {s s' : Session} (h : s'.environment = s.environment)
    (a : Arguments) (o : OptionSpec) (name : String) : ∃ result : Except SettingsFault String,
      (requiredSetting a o name).outcome s = (result.mapError .settings, s) ∧
      (requiredSetting a o name).outcome s' = (result.mapError .settings, s') := by
  have hsetting : ∃ value, (settingOf a o name).outcome s = (.ok value, s) ∧
      (settingOf a o name).outcome s' = (.ok value, s') := by
    unfold settingOf
    cases a.value? o with
    | some value => exact ⟨some value, rfl, rfl⟩
    | none =>
      have henv : s'.env? name = s.env? name := by rw [Session.env?, Session.env?, h]
      dsimp only
      rw [Action.outcome_bind_ok (Action.outcome_get s),
        Action.outcome_bind_ok (Action.outcome_get s'), henv]
      split
      · exact ⟨none, rfl, rfl⟩
      · exact ⟨none, rfl, rfl⟩
      · exact ⟨_, rfl, rfl⟩
  obtain ⟨value, hs, hs'⟩ := hsetting
  unfold requiredSetting
  rw [Action.outcome_bind_ok hs, Action.outcome_bind_ok hs']
  refine ⟨Settings.require value name, ?_⟩
  cases Settings.require value name with
  | ok text => exact ⟨rfl, rfl⟩
  | error fault => exact ⟨rfl, rfl⟩

/-- The run that a command line asks for. -/
def runOf (r : Request) (settings : Settings) (url input : String) : Run where
  url := url
  input := input
  summaryPath := summaryPathOf r.arguments settings
  endings := endingsOf r.arguments settings

/-- What the run of a command line returns in a session. -/
def Returns (r : Request) (settings : Settings) (s : Session) (summary : Summary) : Prop :=
  ∃ url input, ((changesUrl r.arguments).outcome s).1 = .ok url ∧
    ((filesInput r.arguments).outcome s).1 = .ok input ∧
    ((runOf r settings url input).perform.outcome s).1 = .ok summary

/-! ## Runs of a command line -/

theorem outcome_applySettings {s : Session} {config : Table} {settings : Settings}
    (h : (Action.loadSettings.outcome s).1 = .ok (config, settings)) (verbose : Bool) :
    ∃ level, (applySettings verbose).outcome s = (.ok settings, { s with shown := level }) := by
  obtain ⟨result, hload⟩ := Action.reads_loadSettings s
  rw [hload] at h
  subst h
  refine ⟨if verbose then .debug else settings.level, ?_⟩
  unfold applySettings
  rw [Action.outcome_bind_ok hload]
  rfl

/-- A report of a value is printed if it is made of characters. -/
theorem outcome_printReport {layout : Layout} {data : Value (List Glyph)} {text : List Glyph}
    (h : report layout data = .ok text) (s : Session) :
    (∃ line, text = Glyph.ofString line ∧ (printReport layout data).outcome s =
      (.ok (), { s with printed := s.printed ++ withoutSequences line ++ "\n" })) ∨
    (¬ Glyph.AreChars text ∧
      (printReport layout data).outcome s = (.error (.unexplained .unencodable), s)) := by
  have hprint : (printReport layout data).outcome s = (Action.print text).outcome s := by
    unfold printReport
    rw [h]
    rfl
  rw [hprint]
  unfold Action.print
  cases htext : Glyph.string? text with
  | some line => exact .inl ⟨line, Glyph.string?_eq_some_iff.1 htext, rfl⟩
  | none =>
    refine .inr ⟨fun hchars => ?_, rfl⟩
    obtain ⟨line, hline⟩ := Glyph.exists_string_iff.2 hchars
    rw [htext] at hline
    cases hline

/-- The report of a summary is its JSON text or its listing. -/
theorem report_summary (layout : Layout) (summary : Summary) :
    report layout summary.toValue = .ok (match layout with
      | .json => Glyph.ofString summary.render
      | .plain => Listing.ofSummary summary) :=
  report_of_plain (Listing.plain_summary summary) layout

/-- Why a command that renames fails: a setting is not given, its run fails, or its summary has a plain
listing that cannot be printed. -/
inductive RunFails (r : Request) (settings : Settings) (s : Session) : Failure → Prop
  | url {fault : SettingsFault} :
      ((changesUrl r.arguments).outcome s).1 = .error (.settings fault) →
      RunFails r settings s (.settings fault)
  | input {url : String} {fault : SettingsFault} :
      ((changesUrl r.arguments).outcome s).1 = .ok url →
      ((filesInput r.arguments).outcome s).1 = .error (.settings fault) →
      RunFails r settings s (.settings fault)
  | run {url input : String} {e : Failure} {tree : Tree} :
      ((changesUrl r.arguments).outcome s).1 = .ok url →
      ((filesInput r.arguments).outcome s).1 = .ok input →
      (runOf r settings url input).Course s.web s.tree (.error e) tree →
      ((runOf r settings url input).perform.outcome s).1 = .error e → RunFails r settings s e
  | unprintable {url input : String} {summary : Summary} {tree : Tree} :
      ((changesUrl r.arguments).outcome s).1 = .ok url →
      ((filesInput r.arguments).outcome s).1 = .ok input →
      (runOf r settings url input).Course s.web s.tree (.ok summary) tree →
      ((runOf r settings url input).perform.outcome s).1 = .ok summary → r.layout = .plain →
      ¬ Glyph.AreChars (Listing.ofSummary summary) →
      RunFails r settings s (.unexplained .unencodable)

/-- A command that renames fails, or it prints what its run came to and says so by its exit code. -/
theorem runCommand_cases (r : Request) {s : Session} {config : Table} {settings : Settings}
    (h : (Action.loadSettings.outcome s).1 = .ok (config, settings)) :
    (∃ e s', (runCommand r).outcome s = (.error e, s') ∧ RunFails r settings s e) ∨
    ∃ url input summary text s', ((changesUrl r.arguments).outcome s).1 = .ok url ∧
      ((filesInput r.arguments).outcome s).1 = .ok input ∧
      (runOf r settings url input).Course s.web s.tree (.ok summary) s'.tree ∧
      (runOf r settings url input).perform.Yields s.web s.tree (.ok summary) s'.tree ∧
      report r.layout summary.toValue = .ok (Glyph.ofString text) ∧
      s'.printed = s.printed ++ withoutSequences text ++ "\n" ∧
      (runCommand r).outcome s = (.ok (if summary.hasChanges then 1 else 0), s') := by
  obtain ⟨level, hsettings⟩ := outcome_applySettings h r.verbose
  unfold runCommand
  rw [Action.outcome_bind_ok hsettings]
  have henv : ({ s with shown := level } : Session).environment = s.environment := rfl
  obtain ⟨url, hurl, hurl'⟩ :=
    requiredSetting_of_environment henv r.arguments changesUrlOption "CHANGES_URL"
  obtain ⟨input, hinput, hinput'⟩ :=
    requiredSetting_of_environment henv r.arguments filesOption "FILES_INPUT"
  rw [← changesUrl] at hurl hurl'
  rw [← filesInput] at hinput hinput'
  have hurl := congrArg Prod.fst hurl
  have hinput := congrArg Prod.fst hinput
  cases url with
  | error fault => exact .inl ⟨_, _, Action.outcome_bind_error hurl', .url hurl⟩
  | ok url =>
  rw [Action.outcome_bind_ok hurl']
  cases input with
  | error fault => exact .inl ⟨_, _, Action.outcome_bind_error hinput', .input hurl hinput⟩
  | ok input =>
  rw [Action.outcome_bind_ok hinput']
  obtain ⟨result, tree, hcourse, hyields⟩ :=
    (runOf r settings url input).exists_course s.web s.tree
  obtain ⟨s', hout, rfl, hcont⟩ := hyields { s with shown := level } rfl rfl
  cases result with
  | error e =>
    exact .inl ⟨e, _, Action.outcome_bind_error hout, .run hurl hinput hcourse hyields.outcome_eq.1⟩
  | ok summary =>
  have hrest : (runOf r settings url input).perform.outcome { s with shown := level } =
      (.ok summary, s') := hout
  rw [runOf] at hrest
  rw [Action.outcome_bind_ok hrest]
  have hreport := report_summary r.layout summary
  rcases outcome_printReport hreport s' with ⟨text, htext, hprint⟩ | ⟨hchars, hprint⟩
  · rw [Action.outcome_bind_ok hprint]
    refine .inr ⟨url, input, summary, text,
      { s' with printed := s'.printed ++ withoutSequences text ++ "\n" }, hurl, hinput, hcourse,
      hyields, htext ▸ hreport, ?_, rfl⟩
    rw [hcont.printed]
  · -- JSON text is plain, so the report is a listing.
    cases hlayout : r.layout with
    | json =>
      rw [hlayout] at hchars
      exact absurd (Glyph.areChars_ofString _) hchars
    | plain =>
      rw [hlayout] at hchars hprint
      exact .inl ⟨_, s', Action.outcome_bind_error hprint,
        .unprintable hurl hinput hcourse hyields.outcome_eq.1 hlayout hchars⟩

/-- What the program does for a request is what its command comes to. -/
theorem execute_of_perform {arguments : List String} {s s' : Session} {r : Request}
    {result : Except Failure Attempt} (hrequest : Request.ofArguments s.tree arguments = .ok r)
    (h : (perform r).outcome s.afresh = (result, s')) :
    execute arguments s = (outcomeOf result s', s') := by
  have hpair : (perform r).run.run s.afresh = (result, s') := h
  rw [execute, hrequest]
  dsimp only
  rw [hpair]

/-- What the program does for a command line that asks for a run. -/
theorem execute_run_cases {arguments : List String} {s : Session} {r : Request} {config : Table}
    {settings : Settings} (hrequest : Request.ofArguments s.tree arguments = .ok r)
    (hrun : r.command = .run)
    (hsettings : (Action.loadSettings.outcome s.afresh).1 = .ok (config, settings)) :
    (∃ e s', execute arguments s = (outcomeOf (.error e) s', s')) ∨
    ∃ url input summary text s', Returns r settings s.afresh summary ∧
      (runOf r settings url input).Course s.web s.tree (.ok summary) s'.tree ∧
      report r.layout summary.toValue = .ok (Glyph.ofString text) ∧
      s'.printed = withoutSequences text ++ "\n" ∧
      execute arguments s =
        (outcomeOf (.ok (.ok (if summary.hasChanges then 1 else 0))) s', s') := by
  have hperform : perform r = (do return .ok (← runCommand r)) := by rw [perform, hrun]
  rcases runCommand_cases r hsettings with ⟨e, s', hout, -⟩ |
    ⟨url, input, summary, text, s', hurl, hinput, hcourse, hyields, htext, hprinted, hout⟩
  · refine .inl ⟨e, s', execute_of_perform hrequest ?_⟩
    rw [hperform]
    exact Action.outcome_bind_error hout
  · have hreturns : Returns r settings s.afresh summary :=
      ⟨url, input, hurl, hinput, hyields.outcome_eq.1⟩
    rw [show s.afresh.printed = "" from rfl, String.empty_append] at hprinted
    refine .inr ⟨url, input, summary, text, s', hreturns, hcourse, htext, hprinted,
      execute_of_perform hrequest ?_⟩
    rw [hperform]
    exact Action.outcome_bind_ok hout

/-- **Exit code.** After exit code 0 the run has returned no changes, nothing but the summary path
was touched, and there is no file at it. After exit code 1 without an error the run has returned
changes and the summary file holds its text, which is also the output if JSON was asked for. -/
theorem exit_code_tells (arguments : List String) (s : Session) (r : Request) (config : Table)
    (settings : Settings) (hrequest : Request.ofArguments s.tree arguments = .ok r)
    (hrun : r.command = .run)
    (hsettings : (Action.loadSettings.outcome s.afresh).1 = .ok (config, settings))
    (hdevice : s.tree.walk (Path.normal (summaryPathOf r.arguments settings)) ≠ .ok .device) :
    let path := Path.normal (summaryPathOf r.arguments settings)
    let outcome := (execute arguments s).1
    let after := (execute arguments s).2
    (outcome.exitCode = 0 → ∃ summary, Returns r settings s.afresh summary ∧
      summary.changes = [] ∧
      (∀ l, s.tree.location? path ≠ some l → after.tree.node? l = s.tree.node? l) ∧
      after.tree.isFile path = false) ∧
    (outcome.exitCode = 1 → outcome.escaped = none → ¬ ShowsError outcome.errors →
      ∃ summary, Returns r settings s.afresh summary ∧ summary.changes ≠ [] ∧
        (∃ l, after.tree.walk path = .ok (.file l (octetsOf summary.render))) ∧
        (r.layout = .json → outcome.output = summary.render ++ "\n")) := by
  intro path outcome after
  rcases execute_run_cases hrequest hrun hsettings with ⟨e, s', hout⟩ |
    ⟨url, input, summary, text, s', hreturns, hcourse, htext, hprinted, hout⟩
  · -- The command failed.
    have houtcome : outcome = outcomeOf (.error e) s' := congrArg Prod.fst hout
    rw [houtcome]
    refine ⟨fun hcode => ?_, fun _ hescaped hshows => absurd (shows_of_error hescaped) hshows⟩
    rw [exitCode_of_error] at hcode
    cases hcode
  · have houtcome : outcome =
        ⟨if summary.hasChanges then 1 else 0, s'.printed, outcome.errors, none⟩ := by
      show (execute arguments s).1 = ⟨_, _, (execute arguments s).1.errors, _⟩
      rw [hout]
      rfl
    have hafter : after = s' := congrArg Prod.snd hout
    have hcode : outcome.exitCode = if summary.hasChanges then 1 else 0 := by rw [houtcome]
    have hchanges : summary.hasChanges = true ↔ summary.changes ≠ [] := by
      rw [Summary.hasChanges, Summary.total, decide_eq_true_eq, List.length_pos_iff]
    rw [hcode, hafter]
    refine ⟨fun hzero => ?_, fun hone _ _ => ?_⟩
    · have hnone : summary.changes = [] := by
        by_contra hsome
        rw [if_pos (hchanges.2 hsome)] at hzero
        cases hzero
      exact ⟨summary, hreturns, hnone, hcourse.of_no_changes hnone⟩
    · have hsome : summary.hasChanges = true := by
        by_contra hnone
        rw [if_neg hnone] at hone
        cases hone
      refine ⟨summary, hreturns, hchanges.1 hsome, hcourse.of_changes hsome hdevice, ?_⟩
      intro hjson
      rw [hjson] at htext
      have htext' : summary.render = text := Glyph.ofString_injective (Except.ok.inj htext)
      rw [houtcome, hprinted, ← htext', withoutSequences_of_isPlain summary.isPlain_render]

/-- A run that renames in a file, and one that finds a summary of an earlier run and nothing to
rename. -/
theorem exit_code_tells_both :
    let arguments := ["--json", "run", "--changes-url", "http://h.test/c", "--files", "a.css"]
    let r : Request := ⟨.json, false, .run,
      ⟨[⟨changesUrlOption, "http://h.test/c"⟩, ⟨filesOption, "a.css"⟩], []⟩⟩
    let settings : Settings := ⟨.info, [".css"], "changes-summary.json"⟩
    let web := Web.ofTable [("http://h.test/c", .answer ⟨200, octetsOf "a_b\nc-d\n", none, none⟩)]
    let used := Session.start (Tree.empty.place ["a.css"] (.file (octetsOf ".a_b"))) [] web
    let unused := Session.start ((Tree.empty.place ["a.css"] (.file (octetsOf ".x"))).place
      ["changes-summary.json"] (.file (octetsOf "\x7b\x7d"))) [] web
    ((execute arguments used).1.exitCode = 1 ∧
      ∃ summary, Returns r settings used.afresh summary ∧ summary.changes ≠ [] ∧
        (∃ l, (execute arguments used).2.tree.walk "changes-summary.json" =
          .ok (.file l (octetsOf summary.render))) ∧
        (execute arguments used).1.output = summary.render ++ "\n") ∧
    (execute arguments unused).1.exitCode = 0 ∧
      unused.tree.isFile "changes-summary.json" = true ∧
      (execute arguments unused).2.tree.isFile "changes-summary.json" = false := by
  intro arguments r settings web used unused
  have hnormal : Path.normal (summaryPathOf r.arguments settings) = "changes-summary.json" := by
    decide +kernel
  have hran : (execute arguments used).1.exitCode = 1 ∧
      (execute arguments used).1.escaped = none ∧
      ¬ ShowsError (execute arguments used).1.errors := by decide +kernel
  have hzero : (execute arguments unused).1.exitCode = 0 := by decide +kernel
  have hrequest (t : Tree) : Request.ofArguments t arguments = .ok r := by rfl
  have htells := exit_code_tells arguments used r Settings.defaults settings (hrequest _) rfl
    (Action.loadSettings_of_absent (by decide +kernel)) (by decide +kernel)
  have htells' := exit_code_tells arguments unused r Settings.defaults settings (hrequest _) rfl
    (Action.loadSettings_of_absent (by decide +kernel)) (by decide +kernel)
  rw [hnormal] at htells htells'
  obtain ⟨summary, hreturns, hsome, hfile, houtput⟩ :=
    htells.2 hran.1 hran.2.1 hran.2.2
  obtain ⟨-, -, -, -, hgone⟩ := htells'.1 hzero
  exact ⟨⟨hran.1, summary, hreturns, hsome, hfile, houtput rfl⟩, hzero, by decide +kernel, hgone⟩

end CommandLine

end Restyle
