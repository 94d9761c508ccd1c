import Restyle.Json.Reader
import Restyle.Proofs.ChangeLists
import Restyle.Proofs.JsonText
import Restyle.Proofs.Results
import Restyle.Proofs.Spelling
import Restyle.Proofs.Visits
import Restyle.Record

/-!
# Summaries read back

Where a value has to come, the reader takes the tokens that the printer spells for it and has the value
(`Reads`); in a list or a table it does so member by member, and leaves what is open around it as it was.
So a printed value is read back (`read_render`), unless a key stands twice in one of its tables or it
holds something that JSON has no notation for, or a text where two surrogates stand for a character
(`Value.IsJson`).

A summary is such a value. Its text is read back as the table it was made from, and the changes in it as
the diffs of the run (`summary_reads_back`).
-/

namespace Restyle

open Text

/-- Values that a JSON text holds as they are. -/
inductive Value.IsJson : Value (List Glyph) → Prop
  | null : IsJson .null
  | bool (b : Bool) : IsJson (.bool b)
  | int (n : Int) : IsJson (.int n)
  | text {text : List Glyph} : Glyph.joined text = text → IsJson (.text text)
  | list {items : List (Value (List Glyph))} : (∀ v ∈ items, IsJson v) → IsJson (.list items)
  | table {fields : Table (List Glyph)} : (Table.keys fields).Nodup → (∀ f ∈ fields, IsJson f.2) →
      IsJson (.table fields)

/-! ## Tables of fields -/

namespace Table

variable {τ : Type}

theorem put_of_not_mem {fields : Table τ} {key : String} (h : key ∉ keys fields) (v : Value τ) :
    put fields key v = fields ++ [(key, v)] := by
  induction fields with
  | nil => rfl
  | cons f rest ih =>
    rw [keys, List.map_cons, List.mem_cons, not_or] at h
    rw [put, if_neg (Ne.symm h.1), ih h.2, List.cons_append]

/-- Fields whose keys are different make up their table as they are. -/
theorem ofFields_of_nodup {fields : Table τ} (h : (keys fields).Nodup) : ofFields fields = fields := by
  have hfold (front back : Table τ) (hkeys : (keys (front ++ back)).Nodup) :
      back.foldl (fun t f => put t f.1 f.2) front = front ++ back := by
    induction back generalizing front with
    | nil => exact (List.append_nil front).symm
    | cons f back ih =>
      -- The key is none of those before it, so its field comes behind them.
      have hnew : f.1 ∉ keys front := by
        rw [keys, List.map_append, List.map_cons] at hkeys
        exact fun hmem => List.disjoint_of_nodup_append hkeys hmem List.mem_cons_self
      rw [List.append_cons] at hkeys ⊢
      rw [List.foldl_cons, put_of_not_mem hnew, ih (front ++ [f]) hkeys]
  exact hfold [] fields h

end Table

namespace Json

/-! ## Reading tokens -/

/-- Where a value has to come, these tokens are read as this value. -/
def Reads (pieces : List Token) (v : Value (List Glyph)) : Prop :=
  ∀ outer, pieces.foldlM State.step (.value outer) = some (.done v outer)

/-- These tokens are read as this field: its key, a colon and its value. -/
def ReadsField (pieces : List Token) (f : String × Value (List Glyph)) : Prop :=
  ∃ more, pieces = .text (Glyph.ofString f.1) :: .colon :: more ∧ Reads more f.2

section Machine

variable {parts : List (List Token)} {items : List (Value (List Glyph))}
  {fields : Table (List Glyph)} {outer : List Frame} {pieces : List Token} {v : Value (List Glyph)}

theorem foldlM_append_of {start between : State} (h : pieces.foldlM State.step start = some between)
    (more : List Token) :
    (pieces ++ more).foldlM State.step start = more.foldlM State.step between := by
  rw [List.foldlM_append, h]
  rfl

/-- The items of a list, one after the other. -/
theorem foldlM_items (h : List.Forall₂ Reads parts items) (hne : parts ≠ [])
    (front : List (Value (List Glyph))) (outer : List Frame) :
    ([Token.comma].intercalate parts ++ [Token.listEnd]).foldlM State.step
        (.value (.list front :: outer)) =
      some (.done (.list (front.reverse ++ items)) outer) := by
  induction h generalizing front with
  | nil => exact absurd rfl hne
  | @cons part v parts items hpart hrest ih =>
    cases hrest with
    | nil =>
      rw [List.intercalate_singleton, foldlM_append_of (hpart _), ← List.reverse_cons]
      rfl
    | cons hnext hrest =>
      -- The comma leaves a list with one item more, and the next item has to come.
      rw [List.intercalate_cons_cons, List.append_assoc, List.append_assoc,
        foldlM_append_of (hpart _), List.append_cons front.reverse, ← List.reverse_cons]
      exact ih (by simp) (v :: front)

/-- A list begins as its first item does. -/
theorem foldlM_listStart (h : pieces.foldlM State.step (.value (.list [] :: outer)) =
    some (.done v outer)) :
    pieces.foldlM State.step (.listStart outer) = some (.done v outer) := by
  cases pieces with
  | nil => cases h
  | cons piece pieces =>
    -- Only the end of the list would be taken otherwise, and no value begins with it.
    cases piece with
    | listEnd => cases h
    | _ => exact h

theorem reads_list (h : List.Forall₂ Reads parts items) :
    Reads (.listStart :: ([Token.comma].intercalate parts ++ [.listEnd])) (.list items) := by
  intro outer
  cases h with
  | nil => rfl
  | cons hpart hrest =>
    exact foldlM_listStart (foldlM_items (.cons hpart hrest) (by simp) [] outer)

/-- The fields of a table, one after the other. -/
theorem foldlM_fields (h : List.Forall₂ ReadsField parts fields) (hne : parts ≠ [])
    (front : Table (List Glyph)) (outer : List Frame) :
    ([Token.comma].intercalate parts ++ [Token.tableEnd]).foldlM State.step (.nextKey front outer) =
      some (.done (.table (fields.foldl (fun t f => Table.put t f.1 f.2) front)) outer) := by
  induction h generalizing front with
  | nil => exact absurd rfl hne
  | @cons part f parts fields hpart hrest ih =>
    obtain ⟨more, rfl, hmore⟩ := hpart
    have hvalue : (Token.text (Glyph.ofString f.1) :: .colon :: more).foldlM State.step
        (.nextKey front outer) = some (.done f.2 (.table front f.1 :: outer)) := by
      rw [List.foldlM_cons, State.step, Glyph.string?_ofString]
      exact hmore _
    cases hrest with
    | nil =>
      rw [List.intercalate_singleton, foldlM_append_of hvalue]
      rfl
    | cons hnext hrest =>
      rw [List.intercalate_cons_cons, List.append_assoc, List.append_assoc, foldlM_append_of hvalue]
      exact ih (by simp) (Table.put front f.1 f.2)

/-- A table begins with a key as it goes on with one. -/
theorem foldlM_tableStart (h : pieces.foldlM State.step (.nextKey [] outer) = some (.done v outer)) :
    pieces.foldlM State.step (.tableStart outer) = some (.done v outer) := by
  cases pieces with
  | nil => cases h
  | cons piece pieces =>
    cases piece with
    | text key => exact h
    | _ => cases h

theorem reads_table (h : List.Forall₂ ReadsField parts fields) :
    Reads (.tableStart :: ([Token.comma].intercalate parts ++ [.tableEnd]))
      (.table (Table.ofFields fields)) := by
  intro outer
  cases h with
  | nil => rfl
  | cons hpart hrest =>
    exact foldlM_tableStart (foldlM_fields (.cons hpart hrest) (by simp) [] outer)

end Machine

/-! ## Printed values -/

/-- A text spells tokens that are read as this. -/
def Printed {β : Type} (R : List Token → β → Prop) (s : String) (b : β) : Prop :=
  ∃ pieces, SpellsWord s pieces ∧ R pieces b

section Printed

variable {items : List (Value (List Glyph))} {fields : Table (List Glyph)} {members : List String}

/-- Members that are printed one by one, and the tokens of each. -/
theorem exists_parts {β : Type} {R : List Token → β → Prop} {bs : List β}
    (h : List.Forall₂ (Printed R) members bs) :
    ∃ parts, List.Forall₂ SpellsWord members parts ∧ List.Forall₂ R parts bs := by
  induction h with
  | nil => exact ⟨[], .nil, .nil⟩
  | cons hmember _ ih =>
    obtain ⟨pieces, hspells, hreads⟩ := hmember
    obtain ⟨parts, hmembers, hparts⟩ := ih
    exact ⟨pieces :: parts, .cons hspells hmembers, .cons hreads hparts⟩

theorem printed_word {s : String} {v : Value (List Glyph)} (hword : s.toList.all isWordChar = true)
    (hv : scalar? s.toList = some v) : Printed Reads s v :=
  ⟨[.scalar v], spellsWord_scalar hword hv, fun _ => rfl⟩

theorem printed_list (level : Nat) (h : List.Forall₂ (Printed Reads) members items) :
    Printed Reads (bracketed "[" "]" level members) (.list items) := by
  obtain ⟨parts, hmembers, hparts⟩ := exists_parts h
  have hleft : Spells "[" [.listStart] := spells_mark rfl rfl rfl
  have hright : Spells "]" [.listEnd] := spells_mark rfl rfl rfl
  exact ⟨_, (spells_bracketed level hleft hright hmembers).word, reads_list hparts⟩

theorem printed_field {key s : String} {v : Value (List Glyph)} (h : Printed Reads s v) :
    Printed ReadsField (stringText key ++ ": " ++ s) (key, v) := by
  obtain ⟨pieces, hspells, hreads⟩ := h
  have hmark : Spells ":" [.colon] := spells_mark rfl rfl rfl
  have hblank : Spells " " [] := spells_gap (by decide)
  have hcolon : Spells ": " [.colon] := hmark.append hblank
  have hkey := spells_stringText (Glyph.ofString key)
  rw [Glyph.joined_ofString] at hkey
  exact ⟨_, (hkey.append hcolon).append_word hspells, pieces, rfl, hreads⟩

theorem printed_table (level : Nat) (hnodup : (Table.keys fields).Nodup)
    (h : List.Forall₂ (Printed ReadsField) members fields) :
    Printed Reads (bracketed "\x7b" "\x7d" level members) (.table fields) := by
  obtain ⟨parts, hmembers, hparts⟩ := exists_parts h
  have hleft : Spells "\x7b" [.tableStart] := spells_mark rfl rfl rfl
  have hright : Spells "\x7d" [.tableEnd] := spells_mark rfl rfl rfl
  have hreads := reads_table hparts
  rw [Table.ofFields_of_nodup hnodup] at hreads
  exact ⟨_, (spells_bracketed level hleft hright hmembers).word, hreads⟩

theorem printed_items {level : Nat} (h : ∀ v ∈ items, Printed Reads (renderAt level v) v) :
    List.Forall₂ (Printed Reads) (renderItems level items) items := by
  induction items with
  | nil => exact .nil
  | cons v items ih =>
    rw [List.forall_mem_cons] at h
    exact .cons h.1 (ih h.2)

theorem printed_fields {level : Nat} (h : ∀ f ∈ fields, Printed Reads (renderAt level f.2) f.2) :
    List.Forall₂ (Printed ReadsField) (renderFields level fields) fields := by
  induction fields with
  | nil => exact .nil
  | cons f fields ih =>
    rw [List.forall_mem_cons] at h
    exact .cons (printed_field h.1) (ih h.2)

/-- The text of a value, at any level, is read as the value. -/
theorem printed_renderAt {v : Value (List Glyph)} (h : v.IsJson) (level : Nat) :
    Printed Reads (renderAt level v) v := by
  induction h generalizing level with
  | null =>
    rw [renderAt]
    exact printed_word (by decide) rfl
  | bool b =>
    rw [renderAt]
    cases b with
    | false => exact printed_word (s := "false") (by decide) rfl
    | true => exact printed_word (s := "true") (by decide) rfl
  | int n =>
    rw [renderAt]
    exact ⟨_, spellsWord_int n, fun _ => rfl⟩
  | @text text htext =>
    have hspells := spells_stringText text
    rw [htext] at hspells
    rw [renderAt]
    exact ⟨_, hspells.word, fun _ => rfl⟩
  | list _ ih =>
    rw [renderAt]
    exact printed_list level (printed_items fun v hv => ih v hv (level + 1))
  | table hnodup _ ih =>
    rw [renderAt]
    exact printed_table level hnodup (printed_fields fun f hf => ih f hf (level + 1))

/-- A printed value is read back. -/
theorem read_render {v : Value (List Glyph)} (h : v.IsJson) : read (render v) = some v := by
  obtain ⟨pieces, hspells, hreads⟩ := printed_renderAt h 0
  have htokens := hspells [] rfl
  have hempty : tokens [] = some [] := by rw [tokens]
  rw [List.append_nil, hempty, Option.map_some, List.append_nil] at htokens
  rw [read, render, htokens, Option.bind_eq_bind, Option.bind_some, hreads []]
  rfl

end Printed

end Json

/-! ## Summaries -/

/-- A diff with names where no two surrogates stand for a character. -/
def Diff.IsJoined (d : Diff) : Prop :=
  Glyph.joined d.old = d.old ∧ Glyph.joined d.new = d.new

instance : DecidablePred Diff.IsJoined := fun d =>
  inferInstanceAs (Decidable (Glyph.joined d.old = d.old ∧ Glyph.joined d.new = d.new))

theorem Value.isJson_ofString (s : String) : IsJson (.text (Glyph.ofString s)) :=
  .text (Glyph.joined_ofString s)

theorem Diff.isJson_toValue {d : Diff} (h : d.IsJoined) : d.toValue.IsJson := by
  have hkeys : ["file", "line", "oldClass", "newClass"].Nodup := by decide
  refine .table hkeys ?_
  simp only [List.forall_mem_cons]
  exact ⟨Value.isJson_ofString _, .int _, .text h.1, .text h.2, by simp⟩

theorem Summary.isJson_toValue {s : Summary} (h : ∀ d ∈ s.changes, d.IsJoined) :
    s.toValue.IsJson := by
  have hkeys : ["totalChanges", "modifiedFiles", "changes"].Nodup := by decide
  refine .table hkeys ?_
  simp only [List.forall_mem_cons]
  refine ⟨.int _, .list fun v hv => ?_, .list fun v hv => ?_, by simp⟩
  · obtain ⟨name, -, rfl⟩ := List.mem_map.1 hv
    exact Value.isJson_ofString name
  · obtain ⟨d, hd, rfl⟩ := List.mem_map.1 hv
    exact Diff.isJson_toValue (h d hd)

/-- The text of a summary is read back as its table. -/
theorem Summary.read_render {s : Summary} (h : ∀ d ∈ s.changes, d.IsJoined) :
    Json.read s.render = some s.toValue :=
  Json.read_render (isJson_toValue h)

/-- The name of a file is read back. -/
theorem Record.readPath_ofString (path : String) :
    readPath (.text (Glyph.ofString path)) = .ok path := by
  simp [readPath, readText, Bind.bind, Except.bind]

/-- A diff is read back from its table. -/
theorem Diff.diff?_toValue (d : Diff) : Record.diff? d.toValue = .ok d := by
  have hfile : Record.readField [("file", .text (Glyph.ofString d.file)), ("line", .int d.line),
      ("oldClass", .text d.old), ("newClass", .text d.new)] "file" "file" Record.readPath =
        .ok d.file := congrArg (Except.mapError _) (Record.readPath_ofString d.file)
  simp only [toValue, Record.diff?, Record.tableOf, Bind.bind, Except.bind, hfile]
  rfl

theorem Diff.mapM_toValue (diffs : List Diff) :
    (diffs.map Diff.toValue).mapM Record.diff? = .ok diffs := by
  have hall : (diffs.map Diff.toValue).mapM Record.diff? = .ok (diffs.map id) :=
    mapM_map_ok fun d _ => d.diff?_toValue
  rwa [List.map_id] at hall

/-- Summaries with the same text have the same changes. -/
theorem Summary.changes_eq_of_render {s s' : Summary} (hs : ∀ d ∈ s.changes, d.IsJoined)
    (hs' : ∀ d ∈ s'.changes, d.IsJoined) (h : s.render = s'.render) : s.changes = s'.changes := by
  have hvalue : s.toValue = s'.toValue :=
    Option.some.inj ((read_render hs).symm.trans ((congrArg Json.read h).trans (read_render hs')))
  have htables : s.changes.map Diff.toValue = s'.changes.map Diff.toValue := by
    simp only [Summary.toValue, Value.table.injEq, List.cons.injEq, Prod.mk.injEq,
      Value.list.injEq] at hvalue
    exact hvalue.2.2.1.2
  have hread := Diff.mapM_toValue s.changes
  rw [htables, Diff.mapM_toValue] at hread
  exact (Except.ok.inj hread).symm

/-- A file stands behind those whose first change comes before its own. -/
theorem Summary.pairwise_modified (diffs : List Diff) :
    (Summary.ofDiffs diffs).modified.Pairwise fun x y => ∀ (j : Nat) e, diffs[j]? = some e →
      e.file = y → ∃ i d, i < j ∧ diffs[i]? = some d ∧ d.file = x := by
  have horder := ChangeList.pairwise_firstOccurrences (p := fun _ => true) (f := Diff.file) diffs []
  rw [List.filter_true] at horder
  refine horder.imp fun {x y} hxy j e hj he => ?_
  obtain ⟨i, d, hlt, hi, -, hd⟩ := hxy j e hj rfl he
  exact ⟨i, d, hlt, hi, hd⟩

/-- **Summaries read back.** The text of a summary is plain ASCII. If no two surrogates in the names of
its diffs stand for a character, as in names without surrogates, it is read as a table of the number of
diffs, their files, each once and in the order of their first diffs, and changes that are read back as
the diffs. No other such diffs have that text. -/
theorem summary_reads_back (diffs : List Diff) :
    let text := (Summary.ofDiffs diffs).render
    IsPlain text ∧
    ((∀ d ∈ diffs, d.IsJoined) →
      (∃ (files : List String) (changes : List (Value (List Glyph))),
        Json.read text = some (.table [("totalChanges", .int diffs.length),
          ("modifiedFiles", .list (files.map fun file => .text (Glyph.ofString file))),
          ("changes", .list changes)]) ∧
        files.Nodup ∧ (∀ file, file ∈ files ↔ ∃ d ∈ diffs, d.file = file) ∧
        (files.Pairwise fun x y => ∀ (j : Nat) e, diffs[j]? = some e → e.file = y →
          ∃ i d, i < j ∧ diffs[i]? = some d ∧ d.file = x) ∧
        changes.mapM Record.diff? = .ok diffs) ∧
      ∀ others, (∀ d ∈ others, d.IsJoined) → (Summary.ofDiffs others).render = text →
        others = diffs) := by
  intro text
  refine ⟨Summary.isPlain_render _, fun hdiffs => ⟨⟨(Summary.ofDiffs diffs).modified,
    diffs.map Diff.toValue, Summary.read_render hdiffs, nodup_firstOccurrences _ _,
    fun file => Summary.mem_modified, Summary.pairwise_modified diffs, Diff.mapM_toValue diffs⟩,
    fun others hothers hsame => ?_⟩⟩
  exact Summary.changes_eq_of_render hothers hdiffs hsame

/-- Names with a quote, a backslash, control characters, a line separator and a character of two
surrogates; a line number below zero. -/
theorem summary_reads_back_escaped :
    let diffs : List Diff := [⟨"b\"\\.css", 12, "a\u2028", "😀"⟩, ⟨"b\"\\.css", -1, "", "\n\x7f"⟩]
    let text := "\x7b\n  \"totalChanges\": 2," ++
      "\n  \"modifiedFiles\": [\n    \"b\\\"\\\\.css\"\n  ]," ++
      "\n  \"changes\": [" ++
      "\n    \x7b\n      \"file\": \"b\\\"\\\\.css\",\n      \"line\": 12," ++
      "\n      \"oldClass\": \"a\\u2028\",\n      \"newClass\": \"\\ud83d\\ude00\"\n    \x7d," ++
      "\n    \x7b\n      \"file\": \"b\\\"\\\\.css\",\n      \"line\": -1," ++
      "\n      \"oldClass\": \"\",\n      \"newClass\": \"\\n\\u007f\"\n    \x7d" ++
      "\n  ]\n\x7d"
    (∀ d ∈ diffs, d.IsJoined) ∧ IsPlain text ∧
    (∃ (files : List String) (changes : List (Value (List Glyph))),
      Json.read text = some (.table [("totalChanges", .int 2),
        ("modifiedFiles", .list (files.map fun file => .text (Glyph.ofString file))),
        ("changes", .list changes)]) ∧
      changes.mapM Record.diff? = .ok diffs) ∧
    ∀ others, (∀ d ∈ others, d.IsJoined) → (Summary.ofDiffs others).render = text →
      others = diffs := by
  intro diffs text
  have htext : (Summary.ofDiffs diffs).render = text := by decide +kernel
  have hdiffs : ∀ d ∈ diffs, d.IsJoined := by decide +kernel
  obtain ⟨hplain, hback⟩ := summary_reads_back diffs
  obtain ⟨⟨files, changes, hread, -, -, -, hchanges⟩, hunique⟩ := hback hdiffs
  rw [htext] at hplain hread hunique
  exact ⟨hdiffs, hplain, ⟨files, changes, hread, hchanges⟩, hunique⟩

end Restyle
