import Restyle.Proofs.Wear

/-!
# Renaming again and again

Under an index that settles, a pass over a content is a row of single replacements of names
(`steps_renameInContent`), and so is any number of passes one after the other (`steps_passes`). Names
wear off in them, so there are only so many, whatever the passes turn one name into
(`passes_settle`).
-/

namespace Restyle

open Script Text

variable {α : Type} [Script α]

/-! ## Steps -/

/-- One replacement: a selector that an old name begins has the new name in its place. -/
inductive Step (index : Index) : List (Segment α) → List (Segment α) → Prop
  | replace (left right : List (Segment α)) (tail : List α) {r : Rename} : r ∈ index.renames →
      Step index (left ++ .selector (write r.old ++ tail) :: right)
        (left ++ .selector (write r.new ++ tail) :: right)

/-- A row of replacements and their number. -/
inductive Steps (index : Index) : List (Segment α) → Nat → List (Segment α) → Prop
  | refl (segs : List (Segment α)) : Steps index segs 0 segs
  | tail {segs segs' segs'' : List (Segment α)} {n : Nat} : Steps index segs n segs' →
      Step index segs' segs'' → Steps index segs (n + 1) segs''

theorem Steps.trans {index : Index} {segs segs' segs'' : List (Segment α)} {m n : Nat}
    (h : Steps index segs m segs') (h' : Steps index segs' n segs'') :
    Steps index segs (m + n) segs'' := by
  induction h' with
  | refl => exact h
  | tail _ hstep ih => exact ih.tail hstep

theorem Step.between {index : Index} {segs segs' : List (Segment α)} (h : Step index segs segs')
    (before after : List (Segment α)) :
    Step index (before ++ segs ++ after) (before ++ segs' ++ after) := by
  obtain ⟨left, right, tail, hr⟩ := h
  have := Step.replace (before ++ left) (right ++ after) tail hr
  simpa only [List.append_assoc, List.cons_append] using this

/-- Replacements in a part of a text are replacements in the whole. -/
theorem Steps.between {index : Index} {segs segs' : List (Segment α)} {n : Nat}
    (h : Steps index segs n segs') (before after : List (Segment α)) :
    Steps index (before ++ segs ++ after) n (before ++ segs' ++ after) := by
  induction h with
  | refl => exact .refl _
  | tail _ hstep ih => exact ih.tail (hstep.between before after)

theorem Steps.wornAll {index : Index} (hindex : index.Settles) {segs segs' : List (Segment α)}
    {n : Nat} (h : Steps index segs n segs') : WornAll index n segs segs' := by
  induction h with
  | refl => exact .refl index segs
  | tail _ hstep ih =>
    cases hstep with
    | replace left right tail hr => exact ih.replace hindex hr

/-! ## One pass -/

variable [DecidableEq α]

/-- The renames of an index whose names can be names of classes. -/
def Index.named (index : Index) : Index where
  renames := index.renames.filter fun r => IsName r.old ∧ IsName r.new
  nodup := index.nodup.sublist (List.filter_sublist.map _)

theorem Index.mem_named {index : Index} {r : Rename} :
    r ∈ index.named.renames ↔ r ∈ index.renames ∧ IsName r.old ∧ IsName r.new := by
  rw [named, List.mem_filter, decide_eq_true_eq]

theorem Index.Settles.named_eq {index : Index} (h : index.Settles) : index.named = index := by
  have hall : index.named.renames = index.renames :=
    List.filter_eq_self.2 fun r hr => decide_eq_true (h.names r hr)
  cases index
  simp only [Index.named] at hall ⊢
  congr 1

/-- A rename that is made on a line is one replacement of a name. -/
theorem Replaced.step {index : Index} {r : Rename} (hr : r ∈ index.named.renames)
    {before rest line line' : List α} (h : Replaced r before rest line line') :
    Step index.named (segments line) (segments line') := by
  obtain ⟨-, hold, hnew⟩ := Index.mem_named.1 hr
  obtain ⟨b, a, hocc, -, hline'⟩ := h.replaced
  have hcut := wellCut_segments line
  have htext : textOf (segments line) = b ++ (dot :: write r.old) ++ (a ++ rest) := by
    rw [textOf_segments, hocc.text_eq, r.write_oldSelector]
  -- The occurrence starts at the dot of a selector, of which it is a first part.
  obtain ⟨left, tail, right, hsegs, rfl, hafter⟩ := hcut.find_occurrence hold.write htext
  rw [hsegs] at hcut ⊢
  have htail : ∀ c ∈ tail, isName c = true :=
    fun c hc => (hcut.isName (List.mem_append_right _ List.mem_cons_self)).2 c
      (List.mem_append_right _ hc)
  have hcut' : WellCut (left ++ .selector (write r.new ++ tail) :: right) :=
    hcut.rename (hnew.write.append htail)
  have hline : line' = textOf (left ++ .selector (write r.new ++ tail) :: right) := by
    rw [hline', hafter, r.write_newSelector, textOf_append, textOf_selector]
    simp
  rw [hline, segments_textOf hcut']
  exact .replace left right tail hr

theorem Replacements.steps {index : Index} {rs : List Rename} {line line' : List α}
    (h : Replacements rs line line') (hrs : ∀ r ∈ rs, r ∈ index.named.renames) :
    Steps index.named (segments line) rs.length (segments line') := by
  induction h with
  | nil => exact .refl _
  | @cons r rs _ _ _ _ _ hstep _ ih =>
    have hfirst := (Steps.refl _).tail (hstep.step (hrs r List.mem_cons_self))
    have hrest := ih fun q hq => hrs q (List.mem_cons_of_mem r hq)
    rw [List.length_cons, Nat.add_comm]
    exact hfirst.trans hrest

theorem steps_renameInLine {index : Index} (file : String) (number : Int) (line : List α)
    (h : ∀ d ∈ (renameInLine file number index line).diffs, IsName d.old ∧ IsName d.new) :
    Steps index.named (segments line) (renameInLine file number index line).diffs.length
      (segments (renameInLine file number index line).text) := by
  have hdiffs : (renameInLine file number index line).diffs =
      (asked index (segments line)).map (Diff.ofRename file number) := by rw [renameInLine_eq]
  rw [hdiffs, List.length_map]
  refine (replacements_renameInLine file number index line).steps fun r hr => ?_
  rw [Index.mem_named]
  exact ⟨mem_of_mem_asked hr, h _ (hdiffs ▸ List.mem_map_of_mem hr)⟩

/-- A pass makes as many replacements as it has diffs, if all their names can be names of classes. -/
theorem steps_of_named_diffs {index : Index} (file : String) (content : List α)
    (h : ∀ d ∈ (renameInContent file index content).diffs, IsName d.old ∧ IsName d.new) :
    Steps index.named (segments content) (renameInContent file index content).diffs.length
      (segments (renameInContent file index content).text) := by
  refine content_induction (motive := fun text diffs text' =>
    (∀ d ∈ diffs, IsName d.old ∧ IsName d.new) →
      Steps index.named (segments text) diffs.length (segments text'))
    (fun number line => steps_renameInLine file number line) ?_ content h
  intro left ds left' right es right' hleft hright hnames
  rw [List.forall_mem_append] at hnames
  -- First the left part with the old right part behind it, then the right part.
  have hfirst := (hleft hnames.1).between [] (.symbol newline :: segments right)
  have hsecond := (hright hnames.2).between (segments left' ++ [.symbol newline]) []
  simp only [List.nil_append, List.append_nil, List.append_assoc, List.singleton_append]
    at hfirst hsecond
  rw [segments_append dot_ne_newline.symm isName_newline,
    segments_append dot_ne_newline.symm isName_newline, List.length_append]
  exact hfirst.trans hsecond

/-- Under an index that settles, a pass makes as many replacements as it has diffs. -/
theorem steps_renameInContent {index : Index} (hindex : index.Settles) (file : String)
    (content : List α) :
    Steps index (segments content) (renameInContent file index content).diffs.length
      (segments (renameInContent file index content).text) := by
  have hnames : ∀ d ∈ (renameInContent file index content).diffs,
      IsName d.old ∧ IsName d.new := by
    intro d hd
    obtain ⟨r, hr, number, rfl⟩ := exists_rename_of_mem_diffs hd
    exact hindex.names r hr
  have hsteps := steps_of_named_diffs file content hnames
  rwa [hindex.named_eq] at hsteps

/-! ## Many passes -/

/-- A content after a number of passes. -/
def contentAfter (file : String) (index : Index) : Nat → List α → List α
  | 0, content => content
  | n + 1, content => contentAfter file index n (renameInContent file index content).text

/-- The diffs of a number of passes, one pass after the other. -/
def diffsOfPasses (file : String) (index : Index) : Nat → List α → List Diff
  | 0, _ => []
  | n + 1, content => (renameInContent file index content).diffs ++
      diffsOfPasses file index n (renameInContent file index content).text

theorem steps_passes {index : Index} (hindex : index.Settles) (file : String) (n : Nat)
    (content : List α) :
    Steps index (segments content) (diffsOfPasses file index n content).length
      (segments (contentAfter file index n content)) := by
  induction n generalizing content with
  | zero => exact .refl _
  | succ n ih =>
    rw [diffsOfPasses, List.length_append]
    exact (steps_renameInContent hindex file content).trans (ih _)

theorem contentAfter_of_no_diffs {file : String} {index : Index} {content : List α}
    (h : (renameInContent file index content).diffs = []) (n : Nat) :
    contentAfter file index n content = content := by
  induction n with
  | zero => rfl
  | succ n ih => rw [contentAfter, text_of_no_diffs h, ih]

/-- A pass that has diffs comes after passes that have diffs. -/
theorem lt_length_diffsOfPasses {file : String} {index : Index} {content : List α} {n : Nat}
    (h : (renameInContent file index (contentAfter file index n content)).diffs ≠ []) :
    n < (diffsOfPasses file index (n + 1) content).length := by
  induction n generalizing content with
  | zero =>
    have hpos : 0 < (renameInContent file index content).diffs.length := List.length_pos_iff.2 h
    rw [diffsOfPasses, List.length_append]
    omega
  | succ n ih =>
    -- A pass without diffs would be the last one that changes anything.
    have hfirst : (renameInContent file index content).diffs ≠ [] := by
      intro hnone
      rw [contentAfter_of_no_diffs hnone] at h
      exact h hnone
    have hpos := List.length_pos_iff.2 hfirst
    have hrest := ih h
    rw [diffsOfPasses, List.length_append]
    omega

/-- **Convergence.** Under an index that settles, a pass with diffs changes the content, any number
of passes has no more diffs than the content has symbols, and after as many passes there are no
diffs any more and the content stays as it is. -/
theorem passes_settle (file : String) (index : Index) (hindex : index.Settles) :
    (∀ content : List α, (renameInContent file index content).diffs ≠ [] →
      (renameInContent file index content).text ≠ content) ∧
    (∀ (n : Nat) (content : List α),
      (diffsOfPasses file index n content).length ≤ content.length) ∧
    ∀ (n : Nat) (content : List α), content.length ≤ n →
      (renameInContent file index (contentAfter file index n content)).diffs = [] ∧
      (renameInContent file index (contentAfter file index n content)).text =
        contentAfter file index n content := by
  have hbound (n : Nat) (content : List α) :
      (diffsOfPasses file index n content).length ≤ content.length := by
    have := ((steps_passes hindex file n content).wornAll hindex).le_length
    rwa [textOf_segments] at this
  refine ⟨?_, hbound, ?_⟩
  · intro content hdiffs hsame
    have hworn := (steps_renameInContent hindex file content).wornAll hindex
    rw [hsame] at hworn
    exact hdiffs (List.eq_nil_of_length_eq_zero (hworn.eq_zero hindex))
  · intro n content hn
    have hnone : (renameInContent file index (contentAfter file index n content)).diffs = [] := by
      refine Classical.byContradiction fun hdiffs => ?_
      have hlt := lt_length_diffsOfPasses hdiffs
      have hle := hbound (n + 1) content
      omega
    exact ⟨hnone, text_of_no_diffs hnone⟩

/-- A longer name that one rename turns into the old name of another one. -/
theorem passes_settle_chained :
    let index := Index.ofList [⟨"a_b", "x"⟩, ⟨"xc", "y"⟩]
    let content : List Glyph := ".a_bc .a_b"
    index.Settles ∧
      (renameInContent "m.css" index content).text = Glyph.ofString ".xc .a_b" ∧
      (renameInContent "m.css" index content).text ≠ content ∧
      (diffsOfPasses "m.css" index 3 content).length = 3 ∧
      (∀ n, (diffsOfPasses "m.css" index n content).length ≤ 10) ∧
      contentAfter "m.css" index 10 content = Glyph.ofString ".y .x" ∧
      (renameInContent "m.css" index (Glyph.ofString ".y .x")).diffs = [] := by
  intro index content
  have hindex : index.Settles := ⟨by decide +kernel, by decide +kernel⟩
  obtain ⟨hchange, hbound, hstop⟩ := passes_settle (α := Glyph) "m.css" index hindex
  have hdiffs : (renameInContent "m.css" index content).diffs ≠ [] := by decide +kernel
  have hten : contentAfter "m.css" index 10 content = Glyph.ofString ".y .x" := by decide +kernel
  have hstay := (hstop 10 content (by decide +kernel)).1
  rw [hten] at hstay
  exact ⟨hindex, by decide +kernel, hchange content hdiffs, by decide +kernel,
    fun n => hbound n content, hten, hstay⟩

end Restyle
