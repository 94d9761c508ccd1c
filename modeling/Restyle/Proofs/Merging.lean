import Mathlib.Data.List.Nodup
import Mathlib.Data.List.Perm.Subperm
import Restyle.Settings
import Restyle.Toml.Draft

/-!
# Merged tables

What is merged into a table a second time changes nothing (`mergeTable_absorb`), and tables that are
equal up to the order of their fields are still so after they were merged into the same table
(`agrees_mergeTable`). Both need that no key stands twice in a table, at any depth (`Value.Proper`),
and merging keeps it so.
-/

namespace Restyle

/-! ## Keys and their values -/

namespace Table

variable {fields others : Table} {key : String} {v : Value}

theorem mem_of_get? (h : get? fields key = some v) : (key, v) ∈ fields := by
  induction fields with
  | nil => cases h
  | cons field rest ih =>
    obtain ⟨k, x⟩ := field
    rw [get?] at h
    split at h
    · rename_i hk
      rw [hk, Option.some.inj h]
      exact List.mem_cons_self
    · exact List.mem_cons_of_mem _ (ih h)

theorem get?_eq_none_iff : get? fields key = none ↔ key ∉ keys fields := by
  induction fields with
  | nil => simp [get?, keys]
  | cons field rest ih =>
    obtain ⟨k, x⟩ := field
    rw [get?, keys, List.map_cons, List.mem_cons]
    by_cases hk : k = key
    · simp [hk]
    · have hk' : ¬ key = k := fun h => hk h.symm
      rw [if_neg hk, ih]
      simp only [hk', false_or, keys]

theorem mem_keys_of_get? (h : get? fields key = some v) : key ∈ keys fields :=
  List.mem_map_of_mem (f := Prod.fst) (mem_of_get? h)

/-- A key that stands once has the value that it stands with. -/
theorem get?_of_mem (hnodup : (keys fields).Nodup) (h : (key, v) ∈ fields) :
    get? fields key = some v := by
  induction fields with
  | nil => cases h
  | cons field rest ih =>
    obtain ⟨k, x⟩ := field
    rw [keys, List.map_cons, List.nodup_cons] at hnodup
    rw [get?]
    rcases List.mem_cons.1 h with heq | h
    · rw [(Prod.mk.inj heq).1, (Prod.mk.inj heq).2, if_pos rfl]
    · have hk : ¬ k = key := by
        rintro rfl
        exact hnodup.1 (List.mem_map.2 ⟨(k, v), h, rfl⟩)
      rw [if_neg hk]
      exact ih hnodup.2 h

/-- Tables with the same keys in the same order, and with the same values, are equal. -/
theorem ext_of_keys (hnodup : (keys fields).Nodup) (hkeys : keys fields = keys others)
    (hget : ∀ key, get? fields key = get? others key) : fields = others := by
  induction fields generalizing others with
  | nil =>
    cases others with
    | nil => rfl
    | cons field rest => cases hkeys
  | cons field rest ih =>
    obtain ⟨k, x⟩ := field
    cases others with
    | nil => cases hkeys
    | cons other rest' =>
      obtain ⟨k', y⟩ := other
      simp only [keys, List.map_cons, List.cons.injEq] at hkeys
      obtain ⟨rfl, hkeys⟩ := hkeys
      rw [keys, List.map_cons, List.nodup_cons] at hnodup
      have hfirst := hget k
      rw [get?, get?, if_pos rfl, if_pos rfl, Option.some.injEq] at hfirst
      have hrest : rest = rest' := ih hnodup.2 hkeys fun key => by
        by_cases hk : k = key
        · subst hk
          have hno : get? rest k = none := get?_eq_none_iff.2 hnodup.1
          have hno' : get? rest' k = none := by
            rw [get?_eq_none_iff, keys, ← hkeys]
            exact hnodup.1
          rw [hno, hno']
        · have hother := hget key
          rwa [get?, get?, if_neg hk, if_neg hk] at hother
      rw [hfirst, hrest]

theorem nodup_keys_put (h : (keys fields).Nodup) (key : String) (v : Value) :
    (keys (put fields key v)).Nodup := by
  rw [keys_put]
  split
  · exact h
  · rename_i hkey
    rw [List.nodup_append]
    refine ⟨h, List.nodup_singleton key, fun k hk k' hk' => ?_⟩
    rw [List.mem_singleton.1 hk']
    exact fun heq => hkey (heq ▸ hk)

theorem get?_put (fields : Table) (key other : String) (v : Value) :
    get? (put fields key v) other = if other = key then some v else get? fields other := by
  split
  · rename_i h
    rw [h, get?_put_self]
  · rename_i h
    exact get?_put_of_ne fields v h

end Table

/-! ## What a merged table holds -/

section Merge

open Table

variable {base own : Table}

theorem nodup_keys_mergeTable (hbase : (keys base).Nodup) (own : Table) :
    (keys (mergeTable base own)).Nodup := by
  induction own generalizing base with
  | nil => exact hbase
  | cons field rest ih =>
    obtain ⟨key, v⟩ := field
    rw [mergeTable]
    exact ih (nodup_keys_put hbase key _)

/-- The keys of a merged table: the old ones in their order, and the new ones behind them. -/
theorem keys_mergeTable (base : Table) (hown : (keys own).Nodup) :
    keys (mergeTable base own) = keys base ++ (keys own).filter (· ∉ keys base) := by
  induction own generalizing base with
  | nil => simp [mergeTable, keys]
  | cons field rest ih =>
    obtain ⟨key, v⟩ := field
    rw [keys, List.map_cons, List.nodup_cons] at hown
    have hrest : keys ((key, v) :: rest) = key :: keys rest := rfl
    rw [mergeTable, ih _ hown.2, keys_put, hrest, List.filter_cons]
    by_cases hkey : key ∈ keys base
    · simp only [hkey, if_true, not_true_eq_false, decide_false, Bool.false_eq_true, if_false]
    · simp only [hkey, if_false, not_false_eq_true, decide_true, if_true]
      rw [List.append_assoc, List.singleton_append]
      -- The key does not stand in the rest, so nothing more is left out there.
      congr 2
      refine List.filter_congr fun other hother => ?_
      have hne : other ≠ key := by
        rintro rfl
        exact hown.1 hother
      simp [hne]

/-- The values of a merged table: a new one takes the place of an old one, and the others stay. -/
theorem get?_mergeTable (base : Table) (hown : (keys own).Nodup) (key : String) :
    get? (mergeTable base own) key =
      match get? own key with
      | some v => some (mergeValue (get? base key) v)
      | none => get? base key := by
  induction own generalizing base with
  | nil => rfl
  | cons field rest ih =>
    obtain ⟨k, v⟩ := field
    rw [keys, List.map_cons, List.nodup_cons] at hown
    rw [mergeTable, ih _ hown.2, get?_put, get?]
    by_cases hk : k = key
    · subst hk
      have hno : get? rest k = none := get?_eq_none_iff.2 hown.1
      simp only [hno, if_true]
    · have hk' : ¬ key = k := fun h => hk h.symm
      simp only [hk, hk', if_false]

/-- Two tables are merged; any other value stands as it is. -/
theorem mergeValue_cases (old : Option Value) (v : Value) :
    (∃ base own, old = some (.table base) ∧ v = .table own ∧
      mergeValue old v = .table (mergeTable base own)) ∨ mergeValue old v = v := by
  cases v with
  | table own =>
    cases old with
    | none => exact .inr rfl
    | some w =>
      cases w with
      | table base => exact .inl ⟨base, own, rfl, rfl, rfl⟩
      | _ => exact .inr rfl
  | _ => exact .inr rfl

end Merge

/-! ## Values without repeated keys -/

/-- A value where no key stands twice in a table, at any depth. -/
inductive Value.Proper : Value → Prop
  | scalar {v : Value} : Toml.isNested v = false → Proper v
  | list {items : List Value} : (∀ item ∈ items, Proper item) → Proper (.list items)
  | table {fields : Table} : (Table.keys fields).Nodup → (∀ field ∈ fields, Proper field.2) →
      Proper (.table fields)

namespace Value

variable {fields : Table} {v : Value}

theorem Proper.items {items : List Value} (h : Proper (.list items)) :
    ∀ item ∈ items, Proper item := by
  cases h with
  | scalar hscalar => cases hscalar
  | list hitems => exact hitems

theorem Proper.nodup_keys (h : Proper (.table fields)) : (Table.keys fields).Nodup := by
  cases h with
  | scalar hscalar => cases hscalar
  | table hnodup _ => exact hnodup

theorem Proper.get? {key : String} (h : Proper (.table fields))
    (hget : Table.get? fields key = some v) : Proper v := by
  cases h with
  | scalar hscalar => cases hscalar
  | table _ hfields => exact hfields _ (Table.mem_of_get? hget)

theorem proper_of_get? (hnodup : (Table.keys fields).Nodup)
    (h : ∀ key v, Table.get? fields key = some v → Proper v) : Proper (.table fields) :=
  .table hnodup fun field hfield => h field.1 field.2 (Table.get?_of_mem hnodup hfield)

theorem Proper.put (h : Proper (.table fields)) (key : String) (hv : Proper v) :
    Proper (.table (Table.put fields key v)) := by
  refine proper_of_get? (Table.nodup_keys_put h.nodup_keys key v) fun other w hget => ?_
  rw [Table.get?_put] at hget
  split at hget
  · rwa [← Option.some.inj hget]
  · exact h.get? hget

end Value

section Laws

open Table Value

variable {base own : Table} {v w : Value} {old : Option Value}

/-- Merging repeats no key. -/
theorem Value.Proper.merge (h : Proper v) (hold : ∀ w, old = some w → Proper w) :
    Proper (mergeValue old v) := by
  induction h generalizing old with
  | scalar hscalar =>
    rename_i v
    rcases mergeValue_cases old v with ⟨base, own, -, rfl, -⟩ | hsame
    · cases hscalar
    · rw [hsame]
      exact .scalar hscalar
  | list hitems => exact .list hitems
  | @table own hnodup hfields ih =>
    rcases mergeValue_cases old (.table own) with ⟨base, own, rfl, heq, hmerge⟩ | hsame
    · obtain rfl := Value.table.inj heq
      have hbase := hold _ rfl
      rw [hmerge]
      refine proper_of_get? (nodup_keys_mergeTable hbase.nodup_keys own) fun key w hget => ?_
      rw [get?_mergeTable base hnodup] at hget
      split at hget
      · rename_i v hv
        rw [← Option.some.inj hget]
        exact ih _ (mem_of_get? hv) fun x hx => hbase.get? hx
      · exact hbase.get? hget
    · rw [hsame]
      exact .table hnodup hfields

theorem proper_mergeTable (hbase : Proper (.table base)) (hown : Proper (.table own)) :
    Proper (.table (mergeTable base own)) := by
  have hmerge : Proper (mergeValue (some (.table base)) (.table own)) :=
    hown.merge fun w hw => Option.some.inj hw ▸ hbase
  exact hmerge

theorem filter_not_mem_self (names : List String) : names.filter (· ∉ names) = [] :=
  List.filter_eq_nil_iff.2 fun name hname => by simpa using hname

/-- A table that is merged into itself stays as it is. -/
theorem mergeValue_self (h : Proper v) : mergeValue (some v) v = v := by
  induction h with
  | scalar hscalar =>
    rename_i v
    rcases mergeValue_cases (some v) v with ⟨base, own, -, rfl, -⟩ | hsame
    · cases hscalar
    · exact hsame
  | list _ => rfl
  | @table own hnodup _ ih =>
    show Value.table (mergeTable own own) = .table own
    have hkeys : keys (mergeTable own own) = keys own := by
      rw [keys_mergeTable own hnodup, filter_not_mem_self, List.append_nil]
    congr 1
    refine ext_of_keys (nodup_keys_mergeTable hnodup own) hkeys fun key => ?_
    rw [get?_mergeTable own hnodup]
    cases hget : get? own key with
    | none => rfl
    | some v => exact congrArg some (ih _ (mem_of_get? hget))

/-- What was merged into a value is merged into it again without effect. -/
theorem mergeValue_absorb (h : Proper v) (hold : ∀ w, old = some w → Proper w) :
    mergeValue old (mergeValue old v) = mergeValue old v := by
  induction h generalizing old with
  | scalar hscalar =>
    rename_i v
    rcases mergeValue_cases old v with ⟨base, own, -, rfl, -⟩ | hsame
    · cases hscalar
    · rw [hsame, hsame]
  | list _ => rfl
  | @table own hnodup hfields ih =>
    rcases mergeValue_cases old (.table own) with ⟨base, own, rfl, heq, hmerge⟩ | hsame
    · obtain rfl := Value.table.inj heq
      have hbase := hold _ rfl
      have hmerged : (keys (mergeTable base own)).Nodup :=
        nodup_keys_mergeTable hbase.nodup_keys own
      rw [hmerge]
      show Value.table (mergeTable base (mergeTable base own)) = _
      -- The second time all keys are there already.
      have hkeys : keys (mergeTable base (mergeTable base own)) = keys (mergeTable base own) := by
        rw [keys_mergeTable base hmerged, keys_mergeTable base hnodup, List.filter_append,
          filter_not_mem_self, List.nil_append, List.filter_filter]
        simp only [Bool.and_self]
      congr 1
      refine ext_of_keys (nodup_keys_mergeTable hbase.nodup_keys _) hkeys fun key => ?_
      rw [get?_mergeTable base hmerged, get?_mergeTable base hnodup]
      cases hget : get? own key with
      | some v =>
        exact congrArg some (ih _ (mem_of_get? hget) fun w hw => hbase.get? hw)
      | none =>
        dsimp only
        cases hkept : get? base key with
        | none => rfl
        | some v => exact congrArg some (mergeValue_self (hbase.get? hkept))
    · rw [hsame, hsame]

theorem mergeTable_absorb (hbase : Proper (.table base)) (hown : Proper (.table own)) :
    mergeTable base (mergeTable base own) = mergeTable base own := by
  have habsorb : mergeValue (some (.table base)) (mergeValue (some (.table base)) (.table own)) =
      mergeValue (some (.table base)) (.table own) :=
    mergeValue_absorb hown fun w hw => Option.some.inj hw ▸ hbase
  exact Value.table.inj habsorb

end Laws

/-! ## Equal up to the order of fields -/

mutual

/-- Whether two values are equal, where the order of the fields of a table does not count. -/
def Value.agrees : Value → Value → Bool
  | .null, .null => true
  | .bool b, .bool c => b == c
  | .int m, .int n => m == n
  | .real r, .real q => r == q
  | .text s, .text t => s == t
  | .date d, .date e => d == e
  | .clock t, .clock u => t == u
  | .moment m, .moment n => m == n
  | .list items, .list others => itemsAgree items others
  | .table fields, .table others => fields.length == others.length && fieldsAgree fields others
  | _, _ => false

/-- Whether the items of two lists agree one by one. -/
def itemsAgree : List Value → List Value → Bool
  | [], [] => true
  | v :: rest, w :: others => v.agrees w && itemsAgree rest others
  | _, _ => false

/-- Whether each field agrees with what stands under its key in a table. -/
def fieldsAgree : List (String × Value) → Table → Bool
  | [], _ => true
  | (key, v) :: rest, others =>
    (match Table.get? others key with
      | some w => v.agrees w
      | none => false) && fieldsAgree rest others

end

namespace Value

open Table

variable {fields others : Table} {v w : Value} {key : String}

theorem fieldsAgree_iff : fieldsAgree fields others = true ↔
    ∀ field ∈ fields, ∃ w, get? others field.1 = some w ∧ field.2.agrees w = true := by
  induction fields with
  | nil => simp [fieldsAgree]
  | cons field rest ih =>
    obtain ⟨key, v⟩ := field
    rw [fieldsAgree, Bool.and_eq_true, ih, List.forall_mem_cons]
    refine and_congr_left fun _ => ?_
    cases get? others key <;> simp

/-- What stands in a table agrees with what stands under the same key in one that agrees with it. -/
theorem exists_of_agrees (h : (Value.table fields).agrees (.table others) = true)
    (hget : get? fields key = some v) : ∃ w, get? others key = some w ∧ v.agrees w = true := by
  rw [agrees, Bool.and_eq_true] at h
  exact fieldsAgree_iff.1 h.2 _ (mem_of_get? hget)

/-- Tables without repeated keys agree if the same keys stand in both, with values that agree. -/
theorem agrees_table_iff (hfields : (keys fields).Nodup) (hothers : (keys others).Nodup) :
    (Value.table fields).agrees (.table others) = true ↔
      ∀ key, Option.Rel (fun v w => v.agrees w = true) (get? fields key) (get? others key) := by
  have hlength (t : Table) : t.length = (keys t).length := by rw [keys, List.length_map]
  constructor
  · intro h key
    cases hget : get? fields key with
    | some v =>
      obtain ⟨w, hw, hagrees⟩ := exists_of_agrees h hget
      rw [hw]
      exact .some hagrees
    | none =>
      -- The keys of the first are keys of the second, and it has no more.
      have hsub : keys fields ⊆ keys others := by
        intro k hk
        by_contra hno
        obtain ⟨v, hv⟩ := Option.ne_none_iff_exists'.1 fun hnone => get?_eq_none_iff.1 hnone hk
        obtain ⟨w, hw, -⟩ := exists_of_agrees h hv
        exact hno (mem_keys_of_get? hw)
      rw [agrees, Bool.and_eq_true, beq_iff_eq, hlength, hlength] at h
      have hperm := (List.subperm_of_subset hfields hsub).perm_of_length_le (Nat.le_of_eq h.1.symm)
      have hno : get? others key = none := by
        rw [get?_eq_none_iff] at hget ⊢
        exact fun hk => hget (hperm.mem_iff.2 hk)
      rw [hno]
      exact .none
  · intro h
    have hkeys : (keys fields).Perm (keys others) := by
      rw [List.perm_ext_iff_of_nodup hfields hothers]
      intro key
      have hrel := h key
      rw [← not_iff_not, ← get?_eq_none_iff, ← get?_eq_none_iff]
      generalize get? fields key = x at hrel ⊢
      generalize get? others key = y at hrel ⊢
      cases hrel <;> simp
    rw [agrees, Bool.and_eq_true, beq_iff_eq, hlength, hlength]
    refine ⟨hkeys.length_eq, fieldsAgree_iff.2 fun field hfield => ?_⟩
    have hrel := h field.1
    rw [get?_of_mem hfields hfield] at hrel
    generalize get? others field.1 = y at hrel ⊢
    cases hrel with
    | some hagrees => exact ⟨_, rfl, hagrees⟩

theorem agrees_list_iff {items others : List Value} :
    (Value.list items).agrees (.list others) = true ↔
      List.Forall₂ (fun v w => v.agrees w = true) items others := by
  rw [agrees]
  induction items generalizing others with
  | nil => cases others <;> simp [itemsAgree]
  | cons v rest ih =>
    cases others with
    | nil => simp [itemsAgree]
    | cons w others => rw [itemsAgree, Bool.and_eq_true, ih, List.forall₂_cons]

/-- Tables agree with tables only. -/
theorem exists_table_of_agrees (h : (Value.table fields).agrees w = true) :
    ∃ others, w = .table others := by
  cases w with
  | table others => exact ⟨others, rfl⟩
  | _ => cases h

theorem exists_table_of_agrees' (h : v.agrees (.table others) = true) :
    ∃ fields, v = .table fields := by
  cases v with
  | table fields => exact ⟨fields, rfl⟩
  | _ => cases h

theorem eq_text_of_agrees {s : String} (h : (Value.text s).agrees w = true) : w = .text s := by
  cases w with
  | text t =>
    rw [agrees, beq_iff_eq] at h
    rw [h]
  | _ => cases h

theorem eq_texts_of_agrees {texts : List String}
    (h : (Value.list (texts.map .text)).agrees w = true) : w = .list (texts.map .text) := by
  cases w with
  | list others =>
    have hitems := agrees_list_iff.1 h
    clear h
    congr 1
    induction texts generalizing others with
    | nil => exact List.forall₂_nil_left_iff.1 hitems
    | cons s texts ih =>
      rw [List.map_cons, List.forall₂_cons_left_iff] at hitems
      obtain ⟨item, rest, hitem, hrest, rfl⟩ := hitems
      rw [List.map_cons, eq_text_of_agrees hitem, ih rest hrest]
  | _ => cases h

theorem agrees_refl (h : Proper v) : v.agrees v = true := by
  induction h with
  | scalar hscalar =>
    rename_i v
    cases v with
    | list items => cases hscalar
    | table fields => cases hscalar
    | null => rfl
    | _ => rw [agrees, beq_self_eq_true]
  | list _ ih => exact agrees_list_iff.2 (List.forall₂_same.2 ih)
  | table hnodup _ ih =>
    rw [agrees, beq_self_eq_true, Bool.true_and, fieldsAgree_iff]
    exact fun field hfield => ⟨field.2, get?_of_mem hnodup hfield, ih field hfield⟩

theorem mergeValue_of_not_table {old : Option Value} (h : ∀ fields, v ≠ .table fields) :
    mergeValue old v = v := by
  rcases mergeValue_cases old v with ⟨base, own, -, rfl, -⟩ | hsame
  · exact absurd rfl (h own)
  · exact hsame

theorem agrees_mergeValue_of_not_table {old : Option Value} (hno : ∀ fields, v ≠ .table fields)
    (h : v.agrees w = true) : (mergeValue old v).agrees (mergeValue old w) = true := by
  have hno' : ∀ fields, w ≠ .table fields := by
    rintro fields rfl
    obtain ⟨fields', hv⟩ := exists_table_of_agrees' h
    exact hno fields' hv
  rw [mergeValue_of_not_table hno, mergeValue_of_not_table hno']
  exact h

/-- Values that agree still do so after they took the place of the same value. -/
theorem agrees_mergeValue {old : Option Value} (hv : Proper v) (hw : Proper w)
    (hold : ∀ x, old = some x → Proper x) (h : v.agrees w = true) :
    (mergeValue old v).agrees (mergeValue old w) = true := by
  induction hv generalizing old w with
  | scalar hscalar =>
    refine agrees_mergeValue_of_not_table ?_ h
    rintro fields rfl
    cases hscalar
  | list _ => exact agrees_mergeValue_of_not_table (fun fields hlist => by cases hlist) h
  | @table fields hnodup _ ih =>
    obtain ⟨others, rfl⟩ := exists_table_of_agrees h
    cases old with
    | none => exact h
    | some x =>
    cases x with
    | table base =>
      have hbase := hold _ rfl
      show (Value.table (mergeTable base fields)).agrees (.table (mergeTable base others)) = true
      rw [agrees_table_iff (nodup_keys_mergeTable hbase.nodup_keys _)
        (nodup_keys_mergeTable hbase.nodup_keys _)]
      intro key
      have hrel := (agrees_table_iff hnodup hw.nodup_keys).1 h key
      rw [get?_mergeTable base hnodup, get?_mergeTable base hw.nodup_keys]
      cases hx : get? fields key with
      | none =>
        cases hy : get? others key with
        | none =>
          dsimp only
          cases hkept : get? base key with
          | none => exact .none
          | some v => exact .some (agrees_refl (hbase.get? hkept))
        | some w =>
          rw [hx, hy] at hrel
          cases hrel
      | some v =>
        cases hy : get? others key with
        | none =>
          rw [hx, hy] at hrel
          cases hrel
        | some w =>
          rw [hx, hy] at hrel
          cases hrel with
          | some hagrees =>
            exact .some (ih _ (mem_of_get? hx) (hw.get? hy) (fun x hx => hbase.get? hx) hagrees)
    | _ => exact h

theorem agrees_mergeTable {base : Table} (hbase : Proper (.table base))
    (hfields : Proper (.table fields)) (hothers : Proper (.table others))
    (h : (Value.table fields).agrees (.table others) = true) :
    (Value.table (mergeTable base fields)).agrees (.table (mergeTable base others)) = true := by
  have hmerge : (mergeValue (some (.table base)) (.table fields)).agrees
      (mergeValue (some (.table base)) (.table others)) = true :=
    agrees_mergeValue hfields hothers (fun _ hx => Option.some.inj hx ▸ hbase) h
  exact hmerge

end Value

end Restyle
