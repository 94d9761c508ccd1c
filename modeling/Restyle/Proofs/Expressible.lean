import Restyle.Proofs.Merging
import Restyle.Proofs.Results
import Restyle.Toml.Printer

/-!
# What can be written

Null has no place in TOML, and an integer of too many digits is not written. A value in place is written
unless such an obstacle is in it at some depth, and where writing it fails, it fails for one that is
(`Toml.literal_fails_iff`, `Toml.in_of_literal`). A table is written in pieces, some in place and some
under headers of their own, and the writing stops at the first obstacle met; so all of a table is written
exactly if there is no obstacle in it, and what stops the writing is in it (`Toml.obstacle_writeTable`).
-/

namespace Restyle

namespace Toml

/-- An obstacle stands somewhere in a value. -/
inductive Obstacle.In : Obstacle → Value → Prop
  | null : In .null .null
  | longInteger {n : Int} : Text.isShort n = false → In .longInteger (.int n)
  | item {o : Obstacle} {items : List Value} {v : Value} : v ∈ items → In o v → In o (.list items)
  | field {o : Obstacle} {fields : Table} {f : String × Value} :
      f ∈ fields → In o f.2 → In o (.table fields)

end Toml

namespace Value

/-- What holds of scalars, and of lists and tables if it holds of all in them, holds of every value. -/
theorem induct {P : Value → Prop} (scalar : ∀ v, Toml.isNested v = false → P v)
    (list : ∀ items, (∀ v ∈ items, P v) → P (.list items))
    (table : ∀ fields : Table, (∀ f ∈ fields, P f.2) → P (.table fields)) (v : Value) : P v := by
  match v with
  | .list items =>
    exact list items fun w hw =>
      have hlt : sizeOf w < sizeOf (Value.list items) :=
        Nat.lt_of_lt_of_le (List.sizeOf_lt_of_mem hw) (by simp)
      induct scalar list table w
  | .table fields =>
    exact table fields fun f hf =>
      have hlt : sizeOf f.2 < sizeOf (Value.table fields) :=
        calc sizeOf f.2 ≤ sizeOf f := Nat.le_add_left _ _
          _ < sizeOf fields := List.sizeOf_lt_of_mem hf
          _ ≤ sizeOf (Value.table fields) := by simp
      induct scalar list table f.2
  | .null | .bool _ | .int _ | .real _ | .text _ | .date _ | .clock _ | .moment _ => exact scalar _ rfl
termination_by v
decreasing_by all_goals exact hlt

end Value

namespace Toml

open Value

variable {v : Value} {o : Obstacle} {items : List Value} {fields : Table}

namespace Obstacle

theorem in_list_iff : o.In (.list items) ↔ ∃ v ∈ items, o.In v := by
  constructor
  · intro h
    cases h with
    | item hv ho => exact ⟨_, hv, ho⟩
  · rintro ⟨v, hv, ho⟩
    exact .item hv ho

theorem in_table_iff : o.In (.table fields) ↔ ∃ f ∈ fields, o.In f.2 := by
  constructor
  · intro h
    cases h with
    | field hf ho => exact ⟨_, hf, ho⟩
  · rintro ⟨f, hf, ho⟩
    exact .field hf ho

end Obstacle

/-! ## Values in place -/

theorem literalItems_eq (level : Nat) (items : List Value) :
    literalItems level items = items.mapM (literal level) := by
  induction items with
  | nil => rfl
  | cons v rest ih => rw [literalItems, List.mapM_cons, ih]

theorem literalFields_eq (fields : Table) :
    literalFields fields = fields.mapM fun f => (literal 0 f.2).map (fieldText f.1) := by
  induction fields with
  | nil => rfl
  | cons f rest ih =>
    rw [literalFields, List.mapM_cons, ih]
    cases literal 0 f.2 <;> rfl

/-- A list in place fails where one of its items does. -/
theorem literal_list_eq_error {level : Nat} (h : literal level (.list items) = .error o) :
    ∃ v ∈ items, literal (level + 1) v = .error o := by
  rw [literal, map_eq_error_iff, literalItems_eq] at h
  exact exists_of_mapM_error h

theorem literal_table_eq_error {level : Nat} (h : literal level (.table fields) = .error o) :
    ∃ f ∈ fields, literal 0 f.2 = .error o := by
  rw [literal, map_eq_error_iff, literalFields_eq] at h
  obtain ⟨f, hf, hfail⟩ := exists_of_mapM_error h
  exact ⟨f, hf, map_eq_error_iff.1 hfail⟩

/-- What keeps a value from being written in place is in it. -/
theorem in_of_literal {level : Nat} (h : literal level v = .error o) : o.In v := by
  induction v using Value.induct generalizing level with
  | scalar v hscalar =>
    cases v with
    | null =>
      cases h
      exact .null
    | int n =>
      rw [literal, integerText] at h
      split at h
      · cases h
      · rename_i hlong
        cases h
        exact .longInteger (Bool.eq_false_iff.2 hlong)
    | list items => cases hscalar
    | table fields => cases hscalar
    | _ => cases h
  | list items ih =>
    obtain ⟨v, hv, hfail⟩ := literal_list_eq_error h
    exact .item hv (ih v hv hfail)
  | table fields ih =>
    obtain ⟨f, hf, hfail⟩ := literal_table_eq_error h
    exact .field hf (ih f hf hfail)

/-- A value is written in place unless there is an obstacle in it. -/
theorem literal_fails_iff (v : Value) (level : Nat) :
    (∃ o, literal level v = .error o) ↔ ∃ o : Obstacle, o.In v := by
  constructor
  · rintro ⟨o, h⟩
    exact ⟨o, in_of_literal h⟩
  rintro ⟨o, h⟩
  induction h generalizing level with
  | null => exact ⟨.null, rfl⟩
  | longInteger hlong => exact ⟨.longInteger, by rw [literal, integerText, hlong]; rfl⟩
  | @item _ items v hv _ ih =>
    obtain ⟨o, hfail⟩ := mapM_fails_iff.2 ⟨v, hv, ih (level + 1)⟩
    exact ⟨o, by rw [literal, literalItems_eq, hfail]; rfl⟩
  | @field _ fields f hf _ ih =>
    obtain ⟨o, hfield⟩ := ih 0
    obtain ⟨o', hfail⟩ := (mapM_fails_iff (f := fun f : String × Value =>
      (literal 0 f.2).map (fieldText f.1))).2 ⟨f, hf, o, map_eq_error_iff.2 hfield⟩
    exact ⟨o', by rw [literal, literalFields_eq, hfail]; rfl⟩

/-- What keeps it open how a value is written is in it. -/
theorem in_of_hasHeaders (h : hasHeaders v = .error o) : o.In v := by
  have hitems {items : List Value} (h : allFitLine items = .error o) : ∃ v ∈ items, o.In v := by
    induction items with
    | nil => cases h
    | cons v rest ih =>
      rw [allFitLine] at h
      rcases exists_of_bind_error h with hv | ⟨text, -, h⟩
      · exact ⟨v, List.mem_cons_self, in_of_literal hv⟩
      · split at h
        · obtain ⟨w, hw, ho⟩ := ih h
          exact ⟨w, List.mem_cons_of_mem v hw, ho⟩
        · cases h
  cases v with
  | list items =>
    rw [hasHeaders] at h
    split at h
    · exact Obstacle.in_list_iff.2 (hitems (map_eq_error_iff.1 h))
    · cases h
  | _ => cases h

/-! ## Pieces of writing -/

theorem Written.obstacle?_append (first second : Written) :
    (first.append second).obstacle? = first.obstacle?.or second.obstacle? := by
  unfold append
  split
  · rename_i hfirst
    rw [hfirst, Option.none_or]
  · rename_i hfirst
    rw [hfirst, Option.some_or]

/-- Pieces of writing stop where the first of them stops. -/
theorem Written.obstacle?_concat (pieces : List Written) :
    (concat pieces).obstacle? = pieces.findSome? obstacle? := by
  induction pieces with
  | nil => rfl
  | cons w rest ih =>
    rw [concat, obstacle?_append, ih, List.findSome?_cons]
    cases w.obstacle? <;> rfl

theorem findSome?_spaced (below : Bool) (tables : List Written) :
    (spaced below tables).findSome? Written.obstacle? = tables.findSome? Written.obstacle? := by
  have hapart (rest : List Written) : (rest.flatMap fun w => [Written.ofText "\n", w]).findSome?
      Written.obstacle? = rest.findSome? Written.obstacle? := by
    induction rest with
    | nil => rfl
    | cons w rest ih =>
      rw [List.flatMap_cons, List.findSome?_append, ih]
      simp only [List.findSome?_cons, Written.ofText]
      cases w.obstacle? <;> rfl
  cases tables with
  | nil => rfl
  | cons first rest =>
    have hfirst : (first :: rest.flatMap fun w => [Written.ofText "\n", w]).findSome?
        Written.obstacle? = (first :: rest).findSome? Written.obstacle? := by
      rw [List.findSome?_cons, hapart, List.findSome?_cons]
    cases below <;> exact hfirst

/-- A table stops where it is open how a field is written, or else at the first of the lines in place
and the tables below it that stops. -/
theorem obstacle?_tableText (name : String) (isItem : Bool) (fields : Table) (tables : List Written) :
    (tableText name isItem fields tables).obstacle? =
      match fields.mapM fun f => hasHeaders f.2 with
      | .error o => some o
      | .ok _ => ((plainFields fields).map fieldLine ++ tables).findSome? Written.obstacle? := by
  unfold tableText
  cases fields.mapM fun f => hasHeaders f.2 with
  | error o => rfl
  | ok _ =>
    have hhead (hasHeader : Bool) : (if hasHeader then [Written.ofText (header name isItem)] else
        []).findSome? Written.obstacle? = none := by
      cases hasHeader <;> rfl
    dsimp only
    rw [Written.obstacle?_concat, List.append_assoc, List.findSome?_append, hhead, Option.none_or,
      List.findSome?_append, findSome?_spaced, List.findSome?_append]

/-- Writing a value under a name stops at an obstacle. -/
inductive Stops (name : String) (v : Value) (o : Obstacle) : Prop
  | unsettled : hasHeaders v = .error o → Stops name v o
  | inPlace : isUnderHeaders v = false → literal 0 v = .error o → Stops name v o
  | below {w : Written} : w ∈ valueTables name v → w.obstacle? = some o → Stops name v o

theorem mem_tablesOf {name : String} {w : Written} :
    w ∈ tablesOf name fields ↔ ∃ f ∈ fields, w ∈ valueTables (nameBelow name f.1) f.2 := by
  induction fields with
  | nil => simp [tablesOf]
  | cons f rest ih => rw [tablesOf, List.mem_append, ih, List.exists_mem_cons_iff]

theorem obstacle?_fieldLine (f : String × Value) :
    (fieldLine f).obstacle? = some o ↔ literal 0 f.2 = .error o := by
  unfold fieldLine
  cases literal 0 f.2 with
  | ok text => exact iff_of_false (by simp [Written.ofText]) (by simp)
  | error o' => simp [Written.stopped]

/-- What stops a table stops one of its fields. -/
theorem stops_of_tableText {name : String} {isItem : Bool}
    (h : (tableText name isItem fields (tablesOf name fields)).obstacle? = some o) :
    ∃ f ∈ fields, Stops (nameBelow name f.1) f.2 o := by
  rw [obstacle?_tableText] at h
  cases hsettled : fields.mapM fun f => hasHeaders f.2 with
  | error o' =>
    rw [hsettled] at h
    obtain rfl : o' = o := Option.some.inj h
    obtain ⟨f, hf, hfail⟩ := exists_of_mapM_error hsettled
    exact ⟨f, hf, .unsettled hfail⟩
  | ok _ =>
    rw [hsettled] at h
    obtain ⟨w, hw, hstop⟩ := List.exists_of_findSome?_eq_some h
    rcases List.mem_append.1 hw with hw | hw
    · obtain ⟨f, hf, rfl⟩ := List.mem_map.1 hw
      obtain ⟨hf, hplain⟩ := List.mem_filter.1 hf
      exact ⟨f, hf, .inPlace (by simpa using hplain) ((obstacle?_fieldLine f).1 hstop)⟩
    · obtain ⟨f, hf, hw⟩ := mem_tablesOf.1 hw
      exact ⟨f, hf, .below hw hstop⟩

/-- A table of which a field is stopped is stopped, if not by the same obstacle. -/
theorem tableText_stops {name : String} {isItem : Bool} {f : String × Value} (hf : f ∈ fields)
    (h : Stops (nameBelow name f.1) f.2 o) :
    ∃ o', (tableText name isItem fields (tablesOf name fields)).obstacle? = some o' := by
  rw [← Option.isSome_iff_exists, Option.isSome_iff_ne_none]
  intro hnone
  rw [obstacle?_tableText] at hnone
  cases hsettled : fields.mapM fun f => hasHeaders f.2 with
  | error o' =>
    rw [hsettled] at hnone
    cases hnone
  | ok unders =>
    rw [hsettled] at hnone
    have hall := List.findSome?_eq_none_iff.1 hnone
    cases h with
    | unsettled hfail =>
      obtain ⟨o', hfails⟩ :=
        (mapM_fails_iff (f := fun f : String × Value => hasHeaders f.2)).2 ⟨f, hf, o, hfail⟩
      rw [hsettled] at hfails
      cases hfails
    | inPlace hplain hfail =>
      have hline := hall (fieldLine f) <| List.mem_append_left _ <| List.mem_map_of_mem <|
        List.mem_filter.2 ⟨hf, by simpa using hplain⟩
      rw [(obstacle?_fieldLine f).2 hfail] at hline
      cases hline
    | below hw hstop =>
      have htable := hall _ (List.mem_append_right _ (mem_tablesOf.2 ⟨f, hf, hw⟩))
      rw [hstop] at htable
      cases htable

theorem mem_itemTables {name : String} (h : items.all isTable = true) {w : Written} :
    w ∈ itemTables name items ↔ ∃ fields : Table, Value.table fields ∈ items ∧
      w = tableText name true fields (tablesOf name fields) := by
  induction items with
  | nil => simp [itemTables]
  | cons v rest ih =>
    rw [List.all_cons, Bool.and_eq_true] at h
    cases v with
    | table fields =>
      rw [itemTables, List.mem_cons, ih h.2]
      simp [or_and_right, exists_or]
    | _ => cases h.1

/-- Only a list of tables is written under headers, a header for each. -/
theorem all_isTable (h : isUnderHeaders (.list items) = true) : items.all isTable = true := by
  rw [isUnderHeaders, hasHeaders] at h
  split at h
  · rename_i hunder
    split at hunder
    · rename_i hcond
      exact (Bool.and_eq_true _ _ ▸ hcond).2
    · cases hunder
      cases h
  · cases h

/-! ## Tables -/

/-- A table below others stops where it does as a field. -/
theorem stops_table_iff {name : String} : Stops name (.table fields) o ↔
    (tableText name false fields (tablesOf name fields)).obstacle? = some o := by
  constructor
  · intro h
    cases h with
    | unsettled hfail => cases hfail
    | inPlace hplain => cases hplain
    | below hw hstop => rwa [List.mem_singleton.1 hw] at hstop
  · exact fun h => .below (List.mem_singleton_self _) h

/-- What stops the writing of a value is in it. -/
theorem in_of_stops {name : String} (h : Stops name v o) : o.In v := by
  induction v using Value.induct generalizing name with
  | scalar v hscalar =>
    cases h with
    | unsettled hfail => exact in_of_hasHeaders hfail
    | inPlace _ hfail => exact in_of_literal hfail
    | below hw =>
      have hnone : valueTables name v = [] := by
        cases v <;> first | rfl | cases hscalar
      rw [hnone] at hw
      cases hw
  | table fields ih =>
    obtain ⟨f, hf, hstops⟩ := stops_of_tableText (stops_table_iff.1 h)
    exact .field hf (ih f hf hstops)
  | list items ih =>
    cases h with
    | unsettled hfail => exact in_of_hasHeaders hfail
    | inPlace _ hfail => exact in_of_literal hfail
    | below hw hstop =>
      rw [valueTables] at hw
      split at hw
      · rename_i hunder
        obtain ⟨fields, hfields, rfl⟩ := (mem_itemTables (all_isTable hunder)).1 hw
        -- The header of an item does not matter, so the item stops as a table does.
        rw [obstacle?_tableText, ← obstacle?_tableText name false, ← stops_table_iff] at hstop
        exact .item hfields (ih _ hfields hstop)
      · cases hw

/-- The writing of a value stops if there is an obstacle in it. -/
theorem exists_stops (h : ∃ o : Obstacle, o.In v) (name : String) : ∃ o, Stops name v o := by
  induction v using Value.induct generalizing name with
  | scalar v hscalar =>
    obtain ⟨o, hfail⟩ := (literal_fails_iff v 0).2 h
    refine ⟨o, .inPlace ?_ hfail⟩
    cases v <;> first | rfl | cases hscalar
  | table fields ih =>
    obtain ⟨o, ho⟩ := h
    obtain ⟨f, hf, ho⟩ := Obstacle.in_table_iff.1 ho
    obtain ⟨o', hstops⟩ := ih f hf ⟨o, ho⟩ (nameBelow name f.1)
    obtain ⟨o'', hstop⟩ : ∃ o'', (tableText name false fields (tablesOf name fields)).obstacle? =
        some o'' := tableText_stops hf hstops
    exact ⟨o'', stops_table_iff.2 hstop⟩
  | list items ih =>
    cases hunder : isUnderHeaders (.list items) with
    | false =>
      obtain ⟨o, hfail⟩ := (literal_fails_iff (.list items) 0).2 h
      exact ⟨o, .inPlace hunder hfail⟩
    | true =>
      obtain ⟨o, ho⟩ := h
      obtain ⟨v, hv, ho⟩ := Obstacle.in_list_iff.1 ho
      have hall := all_isTable hunder
      obtain ⟨fields, rfl⟩ : ∃ fields, v = .table fields := by
        have htable := List.all_eq_true.1 hall v hv
        cases v with
        | table fields => exact ⟨fields, rfl⟩
        | _ => cases htable
      obtain ⟨o', hstops⟩ := ih _ hv ⟨o, ho⟩ name
      rw [stops_table_iff, obstacle?_tableText, ← obstacle?_tableText name true] at hstops
      refine ⟨o', .below ?_ hstops⟩
      rw [valueTables, if_pos hunder]
      exact (mem_itemTables hall).2 ⟨fields, hv, rfl⟩

/-- What stops the writing of a table is in it, and the writing stops if there is an obstacle in it. -/
theorem obstacle_writeTable (t : Table) :
    (∀ o, (writeTable t).obstacle? = some o → o.In (.table t)) ∧
    ((writeTable t).obstacle? = none ↔ ∀ o : Obstacle, ¬ o.In (.table t)) := by
  have hin (o : Obstacle) (h : (writeTable t).obstacle? = some o) : o.In (.table t) :=
    in_of_stops (stops_table_iff.2 h)
  refine ⟨hin, fun hnone o ho => ?_, fun hfree => ?_⟩
  · obtain ⟨o', hstops⟩ := exists_stops ⟨o, ho⟩ ""
    have hstop : (writeTable t).obstacle? = some o' := stops_table_iff.1 hstops
    rw [hnone] at hstop
    cases hstop
  · rw [Option.eq_none_iff_forall_ne_some]
    exact fun o h => hfree o (hin o h)

end Toml

end Restyle
