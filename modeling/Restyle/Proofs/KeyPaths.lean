import Restyle.Proofs.Merging

/-!
# Merged tables by paths of keys

A path of keys leads into a table, the tables in it, and so on (`Value.at?`). What stands at a path after
one value was merged into another is told by what stood there in both (`Value.at?_mergeValue`,
`Value.at?_mergeValue_of_blocked`, `Value.at?_mergeValue_of_absent`): the own one counts wherever there
is one, and a leaf of it hides all that the old one has below. So the leaves of a merged table are the
own ones and those old ones that are neither replaced nor hidden (`tables_merge_by_paths`), and merging
once more changes nothing (`mergeTable_again`).
-/

namespace Restyle

namespace Value

open Table

variable {v w : Value} {old : Option Value} {fields : Table} {key : String} {path : List String}

/-! ## Paths of keys -/

/-- What stands at a path of keys. -/
def at? (v : Value) : List String → Option Value
  | [] => some v
  | key :: rest =>
    match v with
    | .table fields =>
      match Table.get? fields key with
      | some w => w.at? rest
      | none => none
    | _ => none

/-- A leaf stands at a path: anything but a table. -/
def LeafAt (v : Value) (path : List String) (leaf : Value) : Prop :=
  v.at? path = some leaf ∧ ∀ fields, leaf ≠ .table fields

/-- A leaf stands on the way, before the end of a path. -/
def Blocked (v : Value) (path : List String) : Prop :=
  ∃ front leaf, front <+: path ∧ front ≠ path ∧ v.LeafAt front leaf

theorem table_or_leaf (v : Value) : (∃ fields, v = .table fields) ∨ ∀ fields, v ≠ .table fields := by
  cases v with
  | table fields => exact .inl ⟨fields, rfl⟩
  | _ => exact .inr fun fields h => by cases h

theorem at?_cons (fields : Table) (key : String) (rest : List String) :
    (Value.table fields).at? (key :: rest) = (get? fields key).bind (·.at? rest) := by
  rw [at?]
  cases get? fields key <;> rfl

theorem at?_cons_of_not_table (h : ∀ fields, v ≠ .table fields) (key : String)
    (rest : List String) : v.at? (key :: rest) = none := by
  cases v with
  | table fields => exact absurd rfl (h fields)
  | _ => rfl

theorem blocked_of_not_table (h : ∀ fields, v ≠ .table fields) (key : String)
    (rest : List String) : v.Blocked (key :: rest) :=
  ⟨[], v, List.nil_prefix, (List.cons_ne_nil key rest).symm, rfl, h⟩

theorem blocked_cons {rest : List String} : (Value.table fields).Blocked (key :: rest) ↔
    ∃ v, get? fields key = some v ∧ v.Blocked rest := by
  constructor
  · rintro ⟨front, leaf, hfront, hne, hat, hleaf⟩
    cases front with
    | nil =>
      obtain rfl := Option.some.inj hat
      exact absurd rfl (hleaf fields)
    | cons k front =>
      obtain ⟨rfl, hrest⟩ := List.cons_prefix_cons.1 hfront
      rw [at?_cons, Option.bind_eq_some_iff] at hat
      obtain ⟨v, hv, hat⟩ := hat
      exact ⟨v, hv, front, leaf, hrest, fun heq => hne (congrArg (k :: ·) heq), hat, hleaf⟩
  · rintro ⟨v, hv, front, leaf, hfront, hne, hat, hleaf⟩
    refine ⟨key :: front, leaf, List.cons_prefix_cons.2 ⟨rfl, hfront⟩,
      fun heq => hne (List.cons.inj heq).2, ?_, hleaf⟩
    rw [at?_cons, hv]
    exact hat

/-- Nothing stands behind a leaf. -/
theorem at?_of_blocked (h : v.Blocked path) : v.at? path = none := by
  induction path generalizing v with
  | nil =>
    obtain ⟨front, leaf, hfront, hne, -⟩ := h
    exact absurd (List.prefix_nil.1 hfront) hne
  | cons key rest ih =>
    rcases table_or_leaf v with ⟨fields, rfl⟩ | hleaf
    · obtain ⟨w, hw, hblocked⟩ := blocked_cons.1 h
      rw [at?_cons, hw]
      exact ih hblocked
    · exact at?_cons_of_not_table hleaf key rest

theorem at?_append (v : Value) (front rest : List String) :
    v.at? (front ++ rest) = (v.at? front).bind (·.at? rest) := by
  induction front generalizing v with
  | nil => rfl
  | cons key front ih =>
    rcases table_or_leaf v with ⟨fields, rfl⟩ | hleaf
    · rw [List.cons_append, at?_cons, at?_cons, Option.bind_assoc]
      exact congrArg _ (funext ih)
    · rw [List.cons_append, at?_cons_of_not_table hleaf, at?_cons_of_not_table hleaf,
        Option.bind_none]

theorem bind_at?_cons (old : Option Value) (key : String) (rest : List String) :
    old.bind (·.at? (key :: rest)) = (old.bind (·.at? [key])).bind (·.at? rest) := by
  rw [Option.bind_assoc]
  exact congrArg _ (funext fun v => at?_append v [key] rest)

theorem Proper.at? (h : v.Proper) (hat : v.at? path = some w) : w.Proper := by
  induction path generalizing v with
  | nil => exact Option.some.inj hat ▸ h
  | cons key rest ih =>
    rcases table_or_leaf v with ⟨fields, rfl⟩ | hleaf
    · rw [at?_cons, Option.bind_eq_some_iff] at hat
      obtain ⟨x, hx, hat⟩ := hat
      exact ih (h.get? hx) hat
    · rw [at?_cons_of_not_table hleaf] at hat
      cases hat

/-! ## What a merge leaves at a path -/

/-- Under a key of a merged table stands what was merged there. -/
theorem at?_mergeValue_cons (hnodup : (keys fields).Nodup) (old : Option Value) (key : String)
    (rest : List String) : (mergeValue old (.table fields)).at? (key :: rest) =
      match get? fields key with
      | some w => (mergeValue (old.bind (·.at? [key])) w).at? rest
      | none => old.bind (·.at? (key :: rest)) := by
  by_cases htable : ∃ base, old = some (.table base)
  · obtain ⟨base, rfl⟩ := htable
    have hold (rest : List String) : (some (Value.table base)).bind (·.at? (key :: rest)) =
        (get? base key).bind (·.at? rest) := at?_cons base key rest
    have hsingle : (some (Value.table base)).bind (·.at? [key]) = get? base key := by
      rw [hold]
      exact Option.bind_fun_some _
    show (Value.table (mergeTable base fields)).at? (key :: rest) = _
    rw [at?_cons, get?_mergeTable base hnodup, hsingle, hold]
    cases get? fields key <;> rfl
  · -- What is no table is replaced as a whole.
    have hnone (rest : List String) : old.bind (·.at? (key :: rest)) = none := by
      cases old with
      | none => rfl
      | some x => exact at?_cons_of_not_table (fun base heq => htable ⟨base, congrArg some heq⟩) _ _
    have hmerge : mergeValue old (.table fields) = .table fields := by
      rcases mergeValue_cases old (.table fields) with ⟨base, own, hbase, -, -⟩ | hsame
      · exact absurd ⟨base, hbase⟩ htable
      · exact hsame
    have hfresh (w : Value) : mergeValue none w = w := by
      rcases mergeValue_cases none w with ⟨base, own, hbase, -, -⟩ | hsame
      · cases hbase
      · exact hsame
    rw [hmerge, at?_cons, hnone, hnone]
    cases get? fields key with
    | none => rfl
    | some w => exact congrArg (·.at? rest) (hfresh w).symm

/-- Where there is an own value, it takes the place of the old one. -/
theorem at?_mergeValue (hv : v.Proper) (old : Option Value) (h : v.at? path = some w) :
    (mergeValue old v).at? path = some (mergeValue (old.bind (·.at? path)) w) := by
  induction path generalizing v old with
  | nil =>
    obtain rfl := Option.some.inj h
    exact congrArg (fun x => some (mergeValue x v)) (Option.bind_fun_some old).symm
  | cons key rest ih =>
    rcases table_or_leaf v with ⟨fields, rfl⟩ | hleaf
    · rw [at?_cons, Option.bind_eq_some_iff] at h
      obtain ⟨x, hx, h⟩ := h
      rw [at?_mergeValue_cons hv.nodup_keys, hx, bind_at?_cons old key rest]
      exact ih (hv.get? hx) _ h
    · rw [at?_cons_of_not_table hleaf] at h
      cases h

/-- Where there is none, and no leaf on the way, the old value stays. -/
theorem at?_mergeValue_of_absent (hv : v.Proper) (old : Option Value) (h : v.at? path = none)
    (hfree : ¬ v.Blocked path) : (mergeValue old v).at? path = old.bind (·.at? path) := by
  induction path generalizing v old with
  | nil => cases h
  | cons key rest ih =>
    rcases table_or_leaf v with ⟨fields, rfl⟩ | hleaf
    · rw [at?_mergeValue_cons hv.nodup_keys]
      cases hx : get? fields key with
      | none => rfl
      | some x =>
        rw [at?_cons, hx] at h
        rw [bind_at?_cons old key rest]
        exact ih (hv.get? hx) _ h fun hblocked => hfree (blocked_cons.2 ⟨x, hx, hblocked⟩)
    · exact absurd (blocked_of_not_table hleaf key rest) hfree

/-- Own leaves are leaves after the merge. -/
theorem LeafAt.merge (h : v.LeafAt path w) (hv : v.Proper) (old : Option Value) :
    (mergeValue old v).LeafAt path w := by
  refine ⟨?_, h.2⟩
  rw [at?_mergeValue hv old h.1, mergeValue_of_not_table h.2]

/-- A leaf on the way hides whatever stood there. -/
theorem at?_mergeValue_of_blocked (hv : v.Proper) (old : Option Value) (h : v.Blocked path) :
    (mergeValue old v).at? path = none := by
  obtain ⟨front, leaf, hfront, hne, hleaf⟩ := h
  exact at?_of_blocked ⟨front, leaf, hfront, hne, hleaf.merge hv old⟩

/-! ## Merging once more -/

/-- A value that was merged in is merged in again without effect. -/
theorem mergeValue_again (hv : v.Proper) (hold : ∀ x, old = some x → x.Proper) :
    mergeValue (some (mergeValue old v)) v = mergeValue old v := by
  induction hv generalizing old with
  | scalar hscalar =>
    rename_i v
    have hleaf : ∀ fields, v ≠ .table fields := by
      rintro fields rfl
      cases hscalar
    rw [mergeValue_of_not_table hleaf, mergeValue_of_not_table hleaf]
  | list _ => rfl
  | @table own hnodup hfields ih =>
    rcases mergeValue_cases old (.table own) with ⟨base, own, rfl, heq, hmerge⟩ | hsame
    · obtain rfl := Value.table.inj heq
      have hbase := hold _ rfl
      have hmerged : (keys (mergeTable base own)).Nodup :=
        nodup_keys_mergeTable hbase.nodup_keys own
      rw [hmerge]
      show Value.table (mergeTable (mergeTable base own) own) = _
      -- All keys are there already.
      have hkeys : keys (mergeTable (mergeTable base own) own) = keys (mergeTable base own) := by
        rw [keys_mergeTable _ hnodup, List.append_right_eq_self, List.filter_eq_nil_iff]
        intro key hkey
        rw [keys_mergeTable base hnodup]
        by_cases hmem : key ∈ keys base <;> simp [hkey, hmem]
      congr 1
      refine ext_of_keys (nodup_keys_mergeTable hmerged own) hkeys fun key => ?_
      rw [get?_mergeTable _ hnodup]
      cases hget : get? own key with
      | none => rfl
      | some v =>
        rw [get?_mergeTable base hnodup, hget]
        exact congrArg some (ih _ (mem_of_get? hget) fun x hx => hbase.get? hx)
    · rw [hsame]
      exact mergeValue_self (.table hnodup hfields)

end Value

section Tables

open Value Table

variable {base own : Table}

theorem mergeTable_again (hbase : Proper (.table base)) (hown : Proper (.table own)) :
    mergeTable (mergeTable base own) own = mergeTable base own := by
  have hagain : mergeValue (some (mergeValue (some (.table base)) (.table own))) (.table own) =
      mergeValue (some (.table base)) (.table own) :=
    mergeValue_again hown fun x hx => Option.some.inj hx ▸ hbase
  exact Value.table.inj hagain

end Tables

/-- **Merged tables.** The leaves of a merged table, by their paths of keys: every own leaf; every old
leaf at a path where the own table has nothing, and no leaf on the way; and no others. Where the own
table has something, or a leaf on the way, there is after the merge what it has there, and so no old
leaf. Where two tables were merged, at any depth, the old keys come first in their order and then the
new ones in theirs. And merging once more changes nothing. -/
theorem tables_merge_by_paths {base own : Table} (hbase : (Value.table base).Proper)
    (hown : (Value.table own).Proper) :
    let old := Value.table base
    let new := Value.table own
    let merged := Value.table (mergeTable base own)
    (∀ path leaf, new.LeafAt path leaf → merged.LeafAt path leaf) ∧
    (∀ path leaf, old.LeafAt path leaf → new.at? path = none → ¬ new.Blocked path →
      merged.LeafAt path leaf) ∧
    (∀ path leaf, old.LeafAt path leaf → new.at? path ≠ none ∨ new.Blocked path →
      merged.at? path = new.at? path) ∧
    (∀ path leaf, merged.LeafAt path leaf → new.LeafAt path leaf ∨
      old.LeafAt path leaf ∧ new.at? path = none ∧ ¬ new.Blocked path) ∧
    (∀ path fields others, old.at? path = some (.table fields) →
      new.at? path = some (.table others) → ∃ both, merged.at? path = some (.table both) ∧
        Table.keys both =
          Table.keys fields ++ (Table.keys others).filter (· ∉ Table.keys fields)) ∧
    mergeTable (mergeTable base own) own = mergeTable base own ∧ merged.Proper := by
  intro old new merged
  have hmerged : merged = mergeValue (some old) new := rfl
  have hat {path : List String} {w : Value} (h : new.at? path = some w) :
      merged.at? path = some (mergeValue (old.at? path) w) := by
    rw [hmerged, Value.at?_mergeValue hown _ h]
    rfl
  have habsent {path : List String} (h : new.at? path = none) (hfree : ¬ new.Blocked path) :
      merged.at? path = old.at? path := by
    rw [hmerged, Value.at?_mergeValue_of_absent hown _ h hfree]
    rfl
  have hblocked {path : List String} (h : new.Blocked path) : merged.at? path = none := by
    rw [hmerged, Value.at?_mergeValue_of_blocked hown _ h]
  refine ⟨fun path leaf h => h.merge hown (some old), fun path leaf h hnone hfree => ?_,
    fun path leaf h hnew => ?_, fun path leaf h => ?_, fun path fields others hfields hothers => ?_,
    mergeTable_again hbase hown, proper_mergeTable hbase hown⟩
  · exact ⟨(habsent hnone hfree).trans h.1, h.2⟩
  · rcases hnew with hsome | hhidden
    · obtain ⟨w, hw⟩ := Option.ne_none_iff_exists'.1 hsome
      -- An old leaf is replaced as a whole.
      rcases mergeValue_cases (old.at? path) w with ⟨fields, others, hfields, -, -⟩ | hsame
      · rw [h.1] at hfields
        exact absurd (Option.some.inj hfields) (h.2 fields)
      · rw [hat hw, hsame, hw]
    · rw [hblocked hhidden, Value.at?_of_blocked hhidden]
  · by_cases hhidden : new.Blocked path
    · rw [Value.LeafAt, hblocked hhidden] at h
      cases h.1
    cases hnew : new.at? path with
    | none => exact .inr ⟨⟨(habsent hnew hhidden).symm.trans h.1, h.2⟩, rfl, hhidden⟩
    | some w =>
      obtain ⟨hleaf, hno⟩ := h
      rw [hat hnew, Option.some.injEq] at hleaf
      rcases mergeValue_cases (old.at? path) w with ⟨fields, others, -, -, hboth⟩ | hsame
      · exact absurd (hleaf.symm.trans hboth) (hno _)
      · exact .inl ⟨by rw [← hleaf, hsame, hnew], hno⟩
  · have hproper : (Value.table others).Proper := hown.at? hothers
    refine ⟨mergeTable fields others, ?_, keys_mergeTable fields hproper.nodup_keys⟩
    rw [hat hothers, hfields]
    rfl

/-- Tables that clash in every way: table and leaf, leaf and empty table, and a table that is merged. -/
theorem tables_merge_by_paths_clashing :
    let base : Table := [("a", .table [("x", .int 1), ("y", .table [("z", .int 2)])]), ("b", .int 3)]
    let own : Table := [("c", .int 4), ("b", .table []), ("a", .table [("w", .int 5), ("y", .int 6)])]
    let merged := Value.table (mergeTable base own)
    (Value.table base).Proper ∧ (Value.table own).Proper ∧
    merged.LeafAt ["a", "y"] (.int 6) ∧ merged.LeafAt ["a", "x"] (.int 1) ∧
    merged.at? ["a", "y", "z"] = none ∧ merged.at? ["b"] = some (.table []) ∧
    (∃ both, merged.at? ["a"] = some (.table both) ∧ Table.keys both = ["x", "y", "w"]) ∧
    mergeTable (mergeTable base own) own = mergeTable base own := by
  intro base own merged
  have hint (n : Int) : (Value.int n).Proper := .scalar rfl
  have hleaf (n : Int) (fields : Table) : Value.int n ≠ .table fields := by simp
  have hbase : (Value.table base).Proper := by
    have hz : (Value.table [("z", .int 2)]).Proper := .table (by decide) (by simpa using hint 2)
    have ha : (Value.table [("x", .int 1), ("y", .table [("z", .int 2)])]).Proper :=
      .table (by decide) (by simpa using ⟨hint 1, hz⟩)
    exact .table (by decide) (by simpa [base] using ⟨ha, hint 3⟩)
  have hown : (Value.table own).Proper := by
    have hb : (Value.table []).Proper := .table (by decide) (by simp)
    have ha : (Value.table [("w", .int 5), ("y", .int 6)]).Proper :=
      .table (by decide) (by simpa using ⟨hint 5, hint 6⟩)
    exact .table (by decide) (by simpa [own] using ⟨hint 4, hb, ha⟩)
  have hhidden : (Value.table own).Blocked ["a", "y", "z"] :=
    ⟨["a", "y"], .int 6, by decide, by decide, rfl, hleaf 6⟩
  have hfree : ¬ (Value.table own).Blocked ["a", "x"] := by
    rintro ⟨front, leaf, hfront, hne, hat, hno⟩
    rcases List.prefix_cons_iff.1 hfront with rfl | ⟨rest, rfl, hrest⟩
    · exact hno own (Option.some.inj hat).symm
    rcases List.prefix_cons_iff.1 hrest with rfl | ⟨last, rfl, hlast⟩
    · exact hno [("w", .int 5), ("y", .int 6)] (Option.some.inj hat).symm
    · exact hne (List.prefix_nil.1 hlast ▸ rfl)
  obtain ⟨hnew, hold, hgone, -, horder, hagain, -⟩ := tables_merge_by_paths hbase hown
  refine ⟨hbase, hown, hnew _ _ ⟨rfl, hleaf 6⟩, hold _ _ ⟨rfl, hleaf 1⟩ rfl hfree, ?_, ?_, ?_, hagain⟩
  · exact hgone ["a", "y", "z"] (.int 2) ⟨rfl, hleaf 2⟩ (.inr hhidden)
  · exact hgone ["b"] (.int 3) ⟨rfl, hleaf 3⟩ (.inl fun h => by cases h)
  · obtain ⟨both, hboth, hkeys⟩ := horder ["a"] _ _ rfl rfl
    exact ⟨both, hboth, hkeys.trans (by decide)⟩

end Restyle
