import Restyle.Proofs.Preview

/-!
# Change lists one after the other

Of two change lists, one below the other, the second goes on where the first ends. If the first has a
new name for every old one, the pairs stay as they are, and the index is that of the first list, updated
with that of the second (`change_lists_concatenate`). What an updated index holds is told by its names
and by what is found in it (`Index.names_update`, `Index.find?_update`), and these tell an index
(`Index.ext_of_find?`).
-/

namespace Restyle

open Text

/-! ## First occurrences -/

/-- What was seen is left out. -/
theorem firstOccurrences_append_seen (seen seen' xs : List (List Glyph)) :
    firstOccurrences (seen ++ seen') xs = (firstOccurrences seen' xs).filter (· ∉ seen) := by
  induction xs generalizing seen' with
  | nil => rfl
  | cons x xs ih =>
    have hcons : firstOccurrences (x :: (seen ++ seen')) xs =
        (firstOccurrences (x :: seen') xs).filter (· ∉ seen) := by
      have hmem (y : List Glyph) : y ∈ x :: (seen ++ seen') ↔ y ∈ seen ++ x :: seen' := by
        simp only [List.mem_cons, List.mem_append]
        exact or_left_comm
      rw [firstOccurrences_congr hmem, ih]
    rw [firstOccurrences, firstOccurrences]
    by_cases hseen' : x ∈ seen'
    · rw [if_pos hseen', if_pos (List.mem_append_right seen hseen'), ih]
    by_cases hseen : x ∈ seen
    · -- The name was seen before, and the rest goes without it anyway.
      have hmem (y : List Glyph) : y ∈ seen ++ seen' ↔ y ∈ x :: (seen ++ seen') := by
        rw [List.mem_cons]
        refine ⟨.inr, ?_⟩
        rintro (rfl | h)
        · exact List.mem_append_left seen' hseen
        · exact h
      rw [if_neg hseen', if_pos (List.mem_append_left seen' hseen), firstOccurrences_congr hmem,
        hcons, List.filter_cons_of_neg (by simpa using hseen)]
    · have hnew : x ∉ seen ++ seen' := fun h => (List.mem_append.1 h).elim hseen hseen'
      rw [if_neg hseen', if_neg hnew, List.filter_cons_of_pos (by simpa using hseen), hcons]

namespace Index

/-! ## Updates -/

/-- An index with the renames of another one put in, which win over its own. -/
def update (index other : Index) : Index :=
  other.renames.foldl put index

/-- An index is that of its own renames. -/
theorem ofList_renames (index : Index) : ofList index.renames = index := by
  obtain ⟨renames, hnodup⟩ := index
  have hsame : (ofList renames).renames = renames := renames_ofList hnodup
  show ofList renames = ⟨renames, hnodup⟩
  cases h : ofList renames with
  | mk renames' hnodup' =>
    rw [h] at hsame
    cases hsame
    rfl

/-- The names of the first index keep their places, and those that only the second one has follow in
its order. -/
theorem names_update (index other : Index) :
    (index.update other).names = index.names ++ other.names.filter (· ∉ index.names) := by
  have hall : firstOccurrences index.names other.names =
      (firstOccurrences [] other.names).filter (· ∉ index.names) := by
    have h := firstOccurrences_append_seen index.names [] other.names
    rwa [List.append_nil] at h
  have hown : firstOccurrences [] other.names = other.names := by
    have h := names_ofList other.renames
    rw [ofList_renames] at h
    exact h.symm
  rw [update, names_foldl_put]
  show index.names ++ firstOccurrences index.names other.names = _
  rw [hall, hown]

theorem mem_keys {index : Index} {old : List Glyph} :
    .char '.' :: old ∈ index.keys ↔ old ∈ index.names := by
  rw [keys, List.mem_map]
  constructor
  · rintro ⟨name, hname, heq⟩
    exact (List.cons.inj heq).2 ▸ hname
  · exact fun hold => ⟨old, hold, rfl⟩

theorem keys_update (index other : Index) :
    (index.update other).keys = index.keys ++ other.keys.filter (· ∉ index.keys) := by
  have hnew : ((fun key => decide (key ∉ index.keys)) ∘ fun old => Glyph.char '.' :: old) =
      fun old => decide (old ∉ index.names) :=
    funext fun old => decide_eq_decide.2 (not_congr mem_keys)
  rw [keys, names_update, List.map_append]
  show index.keys ++ _ = index.keys ++ List.filter _ (other.names.map _)
  rw [List.filter_map, hnew]

/-! ## What is found -/

/-- A text begins with a dot, or nothing is found under it. -/
theorem dot_cons_or_find?_eq_none (selector : List Glyph) :
    (∃ name, selector = .char '.' :: name) ∨ ∀ index : Index, index.find? selector = none := by
  by_cases h : ∃ name, selector = .char '.' :: name
  · exact .inl h
  · refine .inr fun index => List.find?_eq_none.2 fun r _ hr => h ⟨r.old, ?_⟩
    rw [decide_eq_true_eq, Script.write_glyph] at hr
    exact hr.symm

/-- What the second index has is found there, and everything else as before. -/
theorem find?_update (index other : Index) (selector : List Glyph) :
    (index.update other).find? selector = (other.find? selector).or (index.find? selector) := by
  rcases dot_cons_or_find?_eq_none selector with ⟨name, rfl⟩ | hnone
  · have hname := Script.isUnambiguous_glyph name
    have hother := find?_ofList other.renames hname
    rw [ofList_renames] at hother
    have hboth := find?_foldl_put index other.renames hname
    rw [← hother] at hboth
    exact hboth
  · simp only [hnone, Option.or_none]

/-! ## Indexes that are equal -/

theorem renames_eq_filterMap (index : Index) : index.renames =
    index.names.filterMap fun old => index.find? (Glyph.char '.' :: old) := by
  rw [names, List.filterMap_map]
  have hfound : index.renames.filterMap ((fun old => index.find? (Glyph.char '.' :: old)) ∘
      Rename.old) = index.renames.filterMap some := by
    refine List.filterMap_congr fun r hr => ?_
    have hr := find?_oldSelector hr (Script.isUnambiguous_glyph _)
    rwa [Script.write_glyph] at hr
  rw [hfound, List.filterMap_some]

/-- Indexes are equal if they have the same names, in the same order, and the same is found in them. -/
theorem ext_of_find? {index other : Index} (hnames : index.names = other.names)
    (hfind : ∀ selector : List Glyph, index.find? selector = other.find? selector) :
    index = other := by
  have hrenames : index.renames = other.renames := by
    rw [renames_eq_filterMap, renames_eq_filterMap, hnames]
    exact List.filterMap_congr fun old _ => hfind _
  cases index
  cases other
  cases hrenames
  rfl

/-- The index of two lists of renames is that of the first one, updated with that of the second. -/
theorem ofList_append (renames more : List Rename) :
    ofList (renames ++ more) = (ofList renames).update (ofList more) := by
  have hnames : (ofList (renames ++ more)).names =
      ((ofList renames).update (ofList more)).names := by
    have hlater := firstOccurrences_append_seen (ofList renames).names [] (more.map Rename.old)
    rw [List.append_nil] at hlater
    have hfold : ofList (renames ++ more) = more.foldl put (ofList renames) := List.foldl_append
    rw [hfold, names_foldl_put, names_update, hlater, names_ofList more]
  refine ext_of_find? hnames fun selector => ?_
  rcases dot_cons_or_find?_eq_none selector with ⟨name, rfl⟩ | hnone
  · have hname := Script.isUnambiguous_glyph name
    have hmore := find?_ofList more hname
    have hboth := find?_foldl_put (ofList renames) more hname
    rw [← hmore] at hboth
    rw [find?_update, ofList, List.foldl_append]
    exact hboth
  · rw [hnone, hnone]

end Index

namespace ChangeList

/-! ## Entries and pairs -/

/-- The entries of one change list come before those of the one below it. -/
theorem entries_append (front back : List Glyph) :
    entries (front ++ .char '\n' :: back) = entries front ++ entries back := by
  have hlines : Glyph.lines (front ++ .char '\n' :: back) = Glyph.lines front ++ Glyph.lines back :=
    splitOn_append_sep _ _ _
  rw [entries, hlines, List.map_append, List.filter_append]
  rfl

/-- Behind an even number of entries the pairs begin anew. -/
theorem pairs_append {entries : List (List Glyph)} (heven : entries.length % 2 = 0)
    (more : List (List Glyph)) : pairs (entries ++ more) = pairs entries ++ pairs more := by
  fun_induction pairs entries with
  | case1 old new rest ih =>
    have hrest : rest.length % 2 = 0 := by
      simp only [List.length_cons] at heven
      omega
    rw [List.cons_append, List.cons_append, pairs, ih hrest, List.cons_append]
  | case2 entries hshort =>
    -- Fewer than two entries are left, and so none.
    rcases entries with _ | ⟨old, _ | ⟨new, rest⟩⟩
    · rfl
    · cases heven
    · exact absurd rfl (hshort old new rest)

/-- The entries that renames are written as. -/
def written (renames : List Rename) : List (List Glyph) :=
  renames.flatMap fun r => [r.old, r.new]

/-- Pairs are written as the entries that they come from, without an odd last one. -/
theorem written_pairs (entries : List (List Glyph)) :
    written (pairs entries) = entries.take (entries.length / 2 * 2) := by
  fun_induction pairs entries with
  | case1 old new rest ih =>
    have hlength : (old :: new :: rest).length / 2 * 2 = rest.length / 2 * 2 + 2 := by
      simp only [List.length_cons]
      omega
    rw [hlength, List.take_succ_cons, List.take_succ_cons, ← ih]
    rfl
  | case2 entries hshort =>
    rcases entries with _ | ⟨old, _ | ⟨new, rest⟩⟩
    · rfl
    · rw [List.length_singleton, List.take_zero]
      rfl
    · exact absurd rfl (hshort old new rest)

theorem renames_append {front : List Glyph} (heven : (entries front).length % 2 = 0)
    (back : List Glyph) : renames (front ++ .char '\n' :: back) = renames front ++ renames back := by
  rw [renames, entries_append, pairs_append heven, relevant, List.filter_append]
  rfl

end ChangeList

/-- **Change lists one after the other.** If a change list has an even number of entries, the index of
this list with another one below it is its own index, updated with that of the other list: the keys of
the first keep their places, those that only the second one has follow in its order, and what is found
under a key is the rename of the second list if it has one. And pairs of entries are written as the
entries themselves, save for an odd last one. -/
theorem change_lists_concatenate (front back : List Glyph) :
    ((ChangeList.entries front).length % 2 = 0 →
      let first := Index.ofList (ChangeList.renames front)
      let second := Index.ofList (ChangeList.renames back)
      let both := Index.ofList (ChangeList.renames (front ++ .char '\n' :: back))
      both = first.update second ∧
      both.keys = first.keys ++ second.keys.filter (· ∉ first.keys) ∧
      ∀ key : List Glyph, both.find? key = (second.find? key).or (first.find? key)) ∧
    ∀ entries : List (List Glyph), ChangeList.written (ChangeList.pairs entries) =
      if entries.length % 2 = 0 then entries else entries.dropLast := by
  refine ⟨fun heven => ?_, fun entries => ?_⟩
  · have hboth : Index.ofList (ChangeList.renames (front ++ .char '\n' :: back)) =
        (Index.ofList (ChangeList.renames front)).update
          (Index.ofList (ChangeList.renames back)) := by
      rw [ChangeList.renames_append heven, Index.ofList_append]
    intro first second both
    refine ⟨hboth, ?_, fun key => ?_⟩
    · rw [show both = first.update second from hboth, Index.keys_update]
    · rw [show both = first.update second from hboth, Index.find?_update]
  · rw [ChangeList.written_pairs]
    split
    · rename_i heven
      exact List.take_of_length_le (by omega)
    · rename_i hodd
      rw [List.dropLast_eq_take, show entries.length / 2 * 2 = entries.length - 1 by omega]

/-- Two change lists that share a name, with blank lines where they meet. -/
theorem change_lists_concatenate_shared :
    let front : List Glyph := "a_b\nx\nc_d\ny\n \n"
    let back : List Glyph := "\ne_f\nz\na_b\nw\nodd"
    (ChangeList.entries front).length % 2 = 0 ∧
    Index.ofList (ChangeList.renames (front ++ .char '\n' :: back)) =
      (Index.ofList (ChangeList.renames front)).update (Index.ofList (ChangeList.renames back)) ∧
    (Index.ofList (ChangeList.renames (front ++ .char '\n' :: back))).renames =
      [⟨"a_b", "w"⟩, ⟨"c_d", "y"⟩, ⟨"e_f", "z"⟩] ∧
    ChangeList.written (ChangeList.pairs (ChangeList.entries back)) = ["e_f", "z", "a_b", "w"] := by
  intro front back
  obtain ⟨hconcat, hwritten⟩ := change_lists_concatenate front back
  have heven : (ChangeList.entries front).length % 2 = 0 := by decide +kernel
  refine ⟨heven, (hconcat heven).1, by decide +kernel, ?_⟩
  rw [hwritten]
  decide +kernel

/-- Behind an odd number of entries all pairs are other ones. -/
example : (Index.ofList (ChangeList.renames ("a_b\nc_d\ny"))).renames =
    [⟨"a_b", "c_d"⟩] := by
  decide +kernel

end Restyle
