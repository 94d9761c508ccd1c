import Restyle.Proofs.ChangeLists
import Restyle.Proofs.ExitCode
import Restyle.Proofs.Listings

/-!
# What a preview shows

The renames of a change list are shown one by one, while a run works with the index of them. A rename
is in the index if no later one has its name (`Index.mem_renames_ofList`). So a preview shows every
rename that a run would use, and it shows just those if no name comes twice
(`Index.renames_ofList`); a name that comes twice shows up with a rename that is never applied.
-/

namespace Restyle

open Text

/-! ## Renames that an index holds -/

namespace Index

theorem insertInto_of_new {r : Rename} {rs : List Rename} (h : r.old ∉ rs.map Rename.old) :
    insertInto r rs = rs ++ [r] := by
  induction rs with
  | nil => rfl
  | cons s rest ih =>
    rw [List.map_cons, List.mem_cons, not_or] at h
    rw [insertInto, if_neg fun e => h.1 e.symm, ih h.2, List.cons_append]

theorem renames_foldl_put {rs : List Rename} {index : Index}
    (h : ((index.renames ++ rs).map Rename.old).Nodup) :
    (rs.foldl put index).renames = index.renames ++ rs := by
  induction rs generalizing index with
  | nil => rw [List.foldl_nil, List.append_nil]
  | cons r rest ih =>
    rw [List.append_cons] at h
    have hnew : r.old ∉ index.renames.map Rename.old := by
      have hfirst : ((index.renames ++ [r]).map Rename.old).Nodup := by
        rw [List.map_append] at h
        exact h.of_append_left
      rw [List.map_append] at hfirst
      intro hr
      exact (List.nodup_append.1 hfirst).2.2 r.old hr r.old List.mem_cons_self rfl
    have hput : (index.put r).renames = index.renames ++ [r] := insertInto_of_new hnew
    rw [List.foldl_cons, ih (hput ▸ h), hput, List.append_assoc]
    rfl

/-- Renames of different names are all held, in their order. -/
theorem renames_ofList {rs : List Rename} (h : (rs.map Rename.old).Nodup) :
    (ofList rs).renames = rs := by
  have hall : ((empty.renames ++ rs).map Rename.old).Nodup := h
  exact renames_foldl_put hall

/-- A rename is held if it is asked for and no later one has its name. -/
theorem mem_renames_ofList {rs : List Rename} {r : Rename} : r ∈ (ofList rs).renames ↔
    ∃ k : Nat, rs[k]? = some r ∧ ∀ (j : Nat) q, rs[j]? = some q → q.old = r.old → j ≤ k := by
  have hlast := ChangeList.find?_ofList_filter (fun _ => true) rs (r := r)
  rw [List.filter_true] at hlast
  simp only [true_and, forall_const] at hlast
  rw [← hlast]
  constructor
  · intro hr
    have hfound := find?_oldSelector hr (Script.isUnambiguous_glyph _)
    rwa [Script.write_glyph] at hfound
  · intro hfound
    exact List.mem_of_find?_eq_some hfound

end Index

namespace CommandLine

/-! ## The preview -/

/-- Whether what is shown of renames can be printed: JSON text can, and a listing of names that are made
of characters. -/
def CanShow (layout : Layout) (renames : List Rename) : Prop :=
  layout = .json ∨ ∀ q ∈ renames, Glyph.AreChars q.old ∧ Glyph.AreChars q.new

theorem areChars_report_iff (layout : Layout) (renames : List Rename) : ∃ text,
    report layout (.list (renames.map Rename.toValue)) = .ok text ∧
      (Glyph.AreChars text ↔ CanShow layout renames) := by
  refine ⟨_, report_of_plain (Listing.plain_renames renames) layout, ?_⟩
  cases layout with
  | json => exact iff_of_true (Glyph.areChars_ofString _) (.inl rfl)
  | plain =>
    have hplain : ¬ Layout.plain = .json := by decide
    rw [CanShow, or_iff_right hplain]
    exact Listing.areChars_ofRenames

/-- The preview of a change list that can be read prints its renames, if they can be shown. -/
theorem outcome_changesCommand {r : Request} {s : Session} {config : Table} {settings : Settings}
    {url : String} {text : List Glyph}
    (hsettings : (Action.loadSettings.outcome s).1 = .ok (config, settings))
    (hurl : ((changesUrl r.arguments).outcome s).1 = .ok url)
    (htext : s.web.changeList true url = .ok text) : ∃ s',
      (CanShow r.layout (ChangeList.renames text) ∧ ∃ printed,
        report r.layout (.list ((ChangeList.renames text).map Rename.toValue)) =
          .ok (Glyph.ofString printed) ∧
        (changesCommand r).outcome s = (.ok 0, s') ∧
        s'.printed = s.printed ++ withoutSequences printed ++ "\n") ∨
      (¬ CanShow r.layout (ChangeList.renames text) ∧
        (changesCommand r).outcome s = (.error (.unexplained .unencodable), s') ∧
        s'.printed = s.printed) := by
  obtain ⟨level, hload⟩ := outcome_applySettings hsettings r.verbose
  have henv : ({ s with shown := level } : Session).environment = s.environment := rfl
  obtain ⟨result, hgiven, hgiven'⟩ :=
    requiredSetting_of_environment henv r.arguments changesUrlOption "CHANGES_URL"
  rw [changesUrl, hgiven] at hurl
  cases result with
  | error fault => cases hurl
  | ok given =>
  obtain rfl : given = url := Except.ok.inj hurl
  have hentries := Action.yields_fetchEntries s.web s.tree given true
  rw [htext] at hentries
  obtain ⟨s', hfetch, -, hcont⟩ := hentries { s with shown := level } rfl rfl
  obtain ⟨shown, hreport, hchars⟩ := areChars_report_iff r.layout (ChangeList.renames text)
  have hcommand {result : Except Failure Unit} {s'' : Session}
      (hprint : (printReport r.layout (.list ((ChangeList.renames text).map Rename.toValue))).outcome
        s' = (result, s'')) :
      (changesCommand r).outcome s = (result.map fun _ => 0, s'') := by
    unfold changesCommand
    rw [Action.outcome_bind_ok hload, changesUrl, Action.outcome_bind_ok hgiven',
      Action.outcome_bind_ok hfetch]
    cases result with
    | error e => exact Action.outcome_bind_error hprint
    | ok => exact Action.outcome_bind_ok hprint
  rcases outcome_printReport hreport s' with ⟨printed, rfl, hprint⟩ | ⟨hnone, hprint⟩
  · refine ⟨_, .inl ⟨hchars.1 (Glyph.areChars_ofString _), printed, hreport, hcommand hprint, ?_⟩⟩
    show s'.printed ++ _ ++ "\n" = _
    rw [hcont.printed]
  · exact ⟨s', .inr ⟨fun hcan => hnone (hchars.2 hcan), hcommand hprint, hcont.printed⟩⟩

/-- **Preview.** The preview of a change list that can be read is well and shows the renames that the
list asks for, if they can be shown, and else it fails and prints nothing. A rename is in the index of a
run if and only if it is shown and no later one that is shown has its name. So every rename of the index
is shown; and what is shown is just what the index holds, each rename once, if and only if no name comes
twice. -/
theorem preview_shows_index (arguments : List String) (s : Session) (r : Request) (config : Table)
    (settings : Settings) (url : String) (text : List Glyph)
    (hrequest : Request.ofArguments s.tree arguments = .ok r) (hchanges : r.command = .changes)
    (hsettings : (Action.loadSettings.outcome s.afresh).1 = .ok (config, settings))
    (hurl : ((changesUrl r.arguments).outcome s.afresh).1 = .ok url)
    (htext : s.web.changeList true url = .ok text) :
    let shown := ChangeList.renames text
    let outcome := (execute arguments s).1
    (CanShow r.layout shown → outcome.exitCode = 0 ∧ outcome.escaped = none ∧
      ∃ printed, report r.layout (.list (shown.map Rename.toValue)) = .ok (Glyph.ofString printed) ∧
        outcome.output = withoutSequences printed ++ "\n") ∧
    (¬ CanShow r.layout shown →
      outcome.exitCode = 1 ∧ outcome.escaped = some .unencodable ∧ outcome.output = "") ∧
    ∃ index, ((Action.fetchIndex url true).outcome s.afresh).1 = .ok index ∧
      (∀ q, q ∈ index.renames ↔ ∃ k : Nat, shown[k]? = some q ∧
        ∀ (j : Nat) p, shown[j]? = some p → p.old = q.old → j ≤ k) ∧
      (shown.Perm index.renames → (shown.map Rename.old).Nodup) ∧
      ((shown.map Rename.old).Nodup → shown = index.renames) := by
  intro shown outcome
  have hindex : ∃ index, ((Action.fetchIndex url true).outcome s.afresh).1 = .ok index ∧
      (∀ q, q ∈ index.renames ↔ ∃ k : Nat, shown[k]? = some q ∧
        ∀ (j : Nat) p, shown[j]? = some p → p.old = q.old → j ≤ k) ∧
      (shown.Perm index.renames → (shown.map Rename.old).Nodup) ∧
      ((shown.map Rename.old).Nodup → shown = index.renames) := by
    refine ⟨Index.ofList shown, Action.fetchIndex_of_changeList htext,
      fun q => Index.mem_renames_ofList, fun hperm => ?_, fun hnodup => ?_⟩
    · exact (hperm.map Rename.old).nodup_iff.2 (Index.ofList shown).nodup
    · exact (Index.renames_ofList hnodup).symm
  have hperform {result : Except Failure Nat} {s' : Session}
      (hout : (changesCommand r).outcome s.afresh = (result, s')) :
      outcome = outcomeOf (result.map .ok) s' := by
    refine congrArg Prod.fst (execute_of_perform hrequest ?_)
    rw [perform, hchanges]
    cases result with
    | error e => exact Action.outcome_bind_error hout
    | ok code => exact Action.outcome_bind_ok hout
  have hfresh : s.afresh.printed = "" := rfl
  rcases outcome_changesCommand hsettings hurl htext with
    ⟨s', ⟨hcan, printed, hreport, hout, hprinted⟩ | ⟨hcan, hout, hprinted⟩⟩
  · rw [hfresh, String.empty_append] at hprinted
    rw [hperform hout]
    exact ⟨fun _ => ⟨rfl, rfl, printed, hreport, hprinted⟩, fun hnot => absurd hcan hnot, hindex⟩
  · rw [hperform hout]
    exact ⟨fun h => absurd h hcan, fun _ => ⟨rfl, rfl, hprinted⟩, hindex⟩

/-- A change list that asks for two renames of different names. -/
theorem preview_shows_index_of_two :
    let web := Web.ofTable
      [("http://h.test/c", .answer ⟨200, octetsOf "a_b\nc-d\nx\ny\ne_f\ng\n", none, none⟩)]
    let s := Session.start Tree.empty [] web
    let arguments := ["changes", "--changes-url", "http://h.test/c"]
    (execute arguments s).1.output = "a_b -> c-d\ne_f -> g\n" ∧
    ∃ index, ((Action.fetchIndex "http://h.test/c" true).outcome s.afresh).1 = .ok index ∧
      index.renames = [⟨"a_b", "c-d"⟩, ⟨"e_f", "g"⟩] := by
  intro web s arguments
  obtain ⟨-, -, index, hindex, -, -, hall⟩ := preview_shows_index arguments s
    ⟨.plain, false, .changes, ⟨[⟨changesUrlOption, "http://h.test/c"⟩], []⟩⟩ Settings.defaults
    ⟨.info, [".css"], "changes-summary.json"⟩ "http://h.test/c" "a_b\nc-d\nx\ny\ne_f\ng\n" rfl rfl
    (Action.loadSettings_of_absent (by decide +kernel)) rfl (by rfl)
  refine ⟨by decide +kernel, index, hindex, ?_⟩
  rw [← hall (by decide +kernel)]
  decide +kernel

/-- A rename that is shown and never applied, since a later one has its name. -/
theorem superseded_rename_shown :
    let web := Web.ofTable
      [("http://h.test/c", .answer ⟨200, octetsOf "a_b\nc_d\na_b\ne_f\n", none, none⟩)]
    let s := Session.start Tree.empty [] web
    (execute ["changes", "--changes-url", "http://h.test/c"] s).1.output =
        "a_b -> c_d\na_b -> e_f\n" ∧
      ∃ index, ((Action.fetchIndex "http://h.test/c" true).outcome s.afresh).1 = .ok index ∧
        index.renames = [⟨"a_b", "e_f"⟩] := by
  intro web s
  have htext : s.afresh.web.changeList true "http://h.test/c" = .ok "a_b\nc_d\na_b\ne_f\n" := by
    rfl
  exact ⟨by decide +kernel, _, Action.fetchIndex_of_changeList htext, by decide +kernel⟩

end CommandLine

end Restyle
