import Restyle.Proofs.Course
import Restyle.Proofs.Indexing

/-!
# What a change list asks for

The entries of a change list count by their positions: the `k`-th rename has its old name at `2 * k`
and its new name behind it (`ChangeList.AskedAt`). The index holds the names that are asked for, in the
order of the first positions and with the renames of the last ones (`index_by_positions`), and a
position that asks for nothing hides none before it.
-/

namespace Restyle

open Text

namespace ChangeList

/-! ## Positions -/

/-- A pair of entries that is a rename to apply: two names that differ, one of them with an underscore
or a hyphen in it. -/
structure AskedAt (entries : List (List Glyph)) (k : Nat) (r : Rename) : Prop where
  old_eq : entries[2 * k]? = some r.old
  new_eq : entries[2 * k + 1]? = some r.new
  changed : r.new ≠ r.old
  marked : ∃ g, (g ∈ r.old ∨ g ∈ r.new) ∧ (g = .char '_' ∨ g = .char '-')

/-- The first rename to apply of its name. -/
structure FirstFor (entries : List (List Glyph)) (k : Nat) (r : Rename) : Prop where
  asked : AskedAt entries k r
  first : ∀ j q, AskedAt entries j q → q.old = r.old → k ≤ j

/-- The last rename to apply of its name. -/
structure LastFor (entries : List (List Glyph)) (k : Nat) (r : Rename) : Prop where
  asked : AskedAt entries k r
  last : ∀ j q, AskedAt entries j q → q.old = r.old → j ≤ k

theorem getElem?_pairs {entries : List (List Glyph)} {k : Nat} {r : Rename} :
    (pairs entries)[k]? = some r ↔
      entries[2 * k]? = some r.old ∧ entries[2 * k + 1]? = some r.new := by
  fun_induction pairs entries generalizing k with
  | case1 old new rest ih =>
    cases k with
    | zero =>
      cases r
      simp
    | succ k => exact ih
  | case2 entries hshort =>
    -- Fewer than two entries are left.
    rw [List.getElem?_nil]
    constructor
    · intro h
      cases h
    · rintro ⟨-, hnew⟩
      match entries, hshort with
      | [], _ => cases hnew
      | [_], _ => simp at hnew
      | old :: new :: rest, hshort => exact absurd rfl (hshort old new rest)

theorem mem_of_mem_pairs {entries : List (List Glyph)} {r : Rename} (h : r ∈ pairs entries) :
    r.old ∈ entries ∧ r.new ∈ entries := by
  obtain ⟨k, hk⟩ := List.mem_iff_getElem?.1 h
  obtain ⟨hold, hnew⟩ := getElem?_pairs.1 hk
  exact ⟨List.mem_of_getElem? hold, List.mem_of_getElem? hnew⟩

theorem isRelevant_iff {r : Rename} : r.isRelevant = true ↔
    r.new ≠ r.old ∧ ∃ g, (g ∈ r.old ∨ g ∈ r.new) ∧ (g = .char '_' ∨ g = .char '-') := by
  simp only [Rename.isRelevant, Rename.isMarker, Bool.and_eq_true, Bool.or_eq_true, bne_iff_ne,
    List.any_eq_true, beq_iff_eq]
  constructor
  · rintro ⟨hne, ⟨c, hc, hmark⟩ | ⟨c, hc, hmark⟩⟩
    · exact ⟨hne.symm, c, .inl hc, hmark⟩
    · exact ⟨hne.symm, c, .inr hc, hmark⟩
  · rintro ⟨hne, c, hc | hc, hmark⟩
    · exact ⟨hne.symm, .inl ⟨c, hc, hmark⟩⟩
    · exact ⟨hne.symm, .inr ⟨c, hc, hmark⟩⟩

theorem askedAt_iff {entries : List (List Glyph)} {k : Nat} {r : Rename} :
    AskedAt entries k r ↔ (pairs entries)[k]? = some r ∧ r.isRelevant = true := by
  rw [getElem?_pairs, isRelevant_iff]
  constructor
  · intro h
    exact ⟨⟨h.old_eq, h.new_eq⟩, h.changed, h.marked⟩
  · rintro ⟨⟨hold, hnew⟩, hchanged, hmarked⟩
    exact ⟨hold, hnew, hchanged, hmarked⟩

/-! ## Positions in a filtered list -/

section Positions

variable {α β : Type} [DecidableEq β] {p q : α → Bool} {f : α → β}

/-- The last item that passes two tests is the one at the last position where any does. -/
theorem find?_reverse_filter {l : List α} {a : α} :
    (l.filter p).reverse.find? q = some a ↔ ∃ k : Nat, l[k]? = some a ∧ p a = true ∧ q a = true ∧
      ∀ (j : Nat) b, l[j]? = some b → p b = true → q b = true → j ≤ k := by
  induction l generalizing a with
  | nil => simp
  | cons x l ih =>
    have hsplit : ((x :: l).filter p).reverse.find? q =
        ((l.filter p).reverse.find? q).or (([x].filter p).find? q) := by
      rw [← List.singleton_append, List.filter_append, List.reverse_append, List.find?_append]
      by_cases hx : p x = true <;> simp [hx]
    rw [hsplit]
    cases hrest : (l.filter p).reverse.find? q with
    | some b =>
      -- A later item passes, so the first one does not count.
      obtain ⟨m, hm, hpb, hqb, hlast⟩ := ih.1 hrest
      rw [Option.some_or]
      constructor
      · intro h
        obtain rfl := Option.some.inj h
        refine ⟨m + 1, hm, hpb, hqb, fun j c hj hpc hqc => ?_⟩
        cases j with
        | zero => omega
        | succ j => exact Nat.succ_le_succ (hlast j c hj hpc hqc)
      · rintro ⟨k, hk, hpa, hqa, hall⟩
        have hle : m + 1 ≤ k := hall (m + 1) b hm hpb hqb
        obtain ⟨k, rfl⟩ : ∃ n, k = n + 1 := ⟨k - 1, by omega⟩
        have hfound : (l.filter p).reverse.find? q = some a :=
          ih.2 ⟨k, hk, hpa, hqa, fun j c hj hpc hqc =>
            Nat.le_of_succ_le_succ (hall (j + 1) c hj hpc hqc)⟩
        rw [← hrest, hfound]
    | none =>
      have hlater : ∀ (j : Nat) b, l[j]? = some b → p b = true → q b = true → False := by
        intro j b hj hpb hqb
        have hmem : b ∈ (l.filter p).reverse :=
          List.mem_reverse.2 (List.mem_filter.2 ⟨List.mem_of_getElem? hj, hpb⟩)
        exact List.find?_eq_none.1 hrest b hmem hqb
      rw [Option.none_or, List.find?_filter]
      constructor
      · intro h
        obtain rfl := List.mem_singleton.1 (List.mem_of_find?_eq_some h)
        have hpass := List.find?_some h
        obtain ⟨hpa, hqa⟩ := of_decide_eq_true hpass
        refine ⟨0, rfl, hpa, hqa, fun j b hj hpb hqb => ?_⟩
        cases j with
        | zero => omega
        | succ j => exact (hlater j b hj hpb hqb).elim
      · rintro ⟨k, hk, hpa, hqa, -⟩
        cases k with
        | zero =>
          obtain rfl : x = a := by simpa using hk
          simp [hpa, hqa]
        | succ k => exact (hlater k a hk hpa hqa).elim

/-- Every place where a test is passed under one name has one before it under another name. -/
def Precedes (p : α → Bool) (f : α → β) (l : List α) (x y : β) : Prop :=
  ∀ (j : Nat) b, l[j]? = some b → p b = true → f b = y →
    ∃ i a, i < j ∧ l[i]? = some a ∧ p a = true ∧ f a = x

omit [DecidableEq β] in
theorem Precedes.cons {l : List α} {x y : β} {a : α} (h : Precedes p f l x y)
    (ha : p a = true → f a ≠ y) : Precedes p f (a :: l) x y := by
  intro j b hj hpb hfb
  cases j with
  | zero =>
    obtain rfl : a = b := by simpa using hj
    exact absurd hfb (ha hpb)
  | succ j =>
    obtain ⟨i, c, hlt, hi, hpc, hfc⟩ := h j b hj hpb hfb
    exact ⟨i + 1, c, by omega, hi, hpc, hfc⟩

/-- First occurrences stand in the order of their positions, which a filter does not change. -/
theorem pairwise_firstOccurrences (l : List α) (seen : List β) :
    (firstOccurrences seen ((l.filter p).map f)).Pairwise (Precedes p f l) := by
  induction l generalizing seen with
  | nil => exact .nil
  | cons a l ih =>
    by_cases hpa : p a = true
    · rw [List.filter_cons_of_pos hpa, List.map_cons, firstOccurrences]
      by_cases hseen : f a ∈ seen
      · -- The name was seen before, so it is none of these.
        rw [if_pos hseen]
        refine (ih seen).imp_of_mem fun {x y} _ hy h => h.cons fun _ hfa => ?_
        exact (mem_firstOccurrences.1 hy).2 (hfa ▸ hseen)
      · rw [if_neg hseen]
        refine List.Pairwise.cons ?_ ?_
        · intro y hy j b hj hpb hfb
          cases j with
          | zero =>
            obtain rfl : a = b := by simpa using hj
            exact absurd (List.mem_cons.2 (.inl hfb.symm)) (mem_firstOccurrences.1 hy).2
          | succ j => exact ⟨0, a, Nat.succ_pos j, rfl, hpa, rfl⟩
        · refine (ih (f a :: seen)).imp_of_mem fun {x y} _ hy h => h.cons fun _ hfa => ?_
          exact (mem_firstOccurrences.1 hy).2 (List.mem_cons.2 (.inl hfa.symm))
    · rw [List.filter_cons_of_neg hpa]
      exact (ih seen).imp fun h => h.cons fun hp => absurd hp hpa

end Positions

/-- An odd last entry is no part of a pair. -/
theorem pairs_dropLast {entries : List (List Glyph)} (h : entries.length % 2 = 1) :
    pairs entries.dropLast = pairs entries := by
  fun_induction pairs entries with
  | case1 old new rest ih =>
    have hrest : rest.length % 2 = 1 := by
      simp only [List.length_cons] at h
      omega
    have hne : rest ≠ [] := by
      rintro rfl
      cases hrest
    rw [List.dropLast_cons_of_ne_nil (List.cons_ne_nil new rest),
      List.dropLast_cons_of_ne_nil hne, pairs, ih hrest]
  | case2 entries hshort =>
    match entries, hshort with
    | [], _ => rfl
    | [_], _ => rfl
    | old :: new :: rest, hshort => exact absurd rfl (hshort old new rest)

/-! ## The index of a change list -/

/-- The names in the index of a change list are entries of it. -/
theorem mem_entries_of_mem_index {text : List Glyph} {r : Rename}
    (h : r ∈ (Index.ofList (renames text)).renames) :
    r.old ∈ entries text ∧ r.new ∈ entries text :=
  mem_of_mem_pairs (List.mem_filter.1 (Index.mem_of_mem_ofList h)).1

theorem ne_nil_of_mem_entries {text name : List Glyph} (h : name ∈ entries text) : name ≠ [] := by
  simpa using (List.mem_filter.1 h).2

/-- The names in a change list are not empty. -/
theorem ne_nil_of_mem_index {text : List Glyph} {r : Rename}
    (h : r ∈ (Index.ofList (renames text)).renames) : r.old ≠ [] ∧ r.new ≠ [] := by
  obtain ⟨hold, hnew⟩ := mem_entries_of_mem_index h
  exact ⟨ne_nil_of_mem_entries hold, ne_nil_of_mem_entries hnew⟩

theorem mem_relevant_pairs {entries : List (List Glyph)} {r : Rename} :
    r ∈ relevant (pairs entries) ↔ ∃ k, AskedAt entries k r := by
  rw [relevant, List.mem_filter, List.mem_iff_getElem?]
  simp only [askedAt_iff, exists_and_right]

/-- Of the renames that pass a test, the one that is found is the last of its name. -/
theorem find?_ofList_filter (p : Rename → Bool) (renames : List Rename) {r : Rename} :
    (Index.ofList (renames.filter p)).find? r.oldSelector = some r ↔
      ∃ k : Nat, renames[k]? = some r ∧ p r = true ∧
        ∀ (j : Nat) q, renames[j]? = some q → p q = true → q.old = r.old → j ≤ k := by
  have hname (q : Rename) : decide (Script.write q.old = r.old) = true ↔ q.old = r.old := by
    rw [decide_eq_true_eq, Script.write_glyph]
  have hfind := Index.find?_ofList (renames.filter p) (Script.isUnambiguous_glyph r.old)
  rw [show r.oldSelector = Script.dot :: r.old from rfl, hfind, find?_reverse_filter]
  simp only [hname, true_and]

theorem find?_index {entries : List (List Glyph)} {r : Rename} :
    (Index.ofList (relevant (pairs entries))).find? r.oldSelector = some r ↔
      ∃ k, LastFor entries k r := by
  rw [relevant, find?_ofList_filter]
  constructor
  · rintro ⟨k, hk, hr, hlast⟩
    refine ⟨k, askedAt_iff.2 ⟨hk, hr⟩, fun j q hq hqr => ?_⟩
    obtain ⟨hj, hrel⟩ := askedAt_iff.1 hq
    exact hlast j q hj hrel hqr
  · rintro ⟨k, hasked, hlast⟩
    obtain ⟨hk, hr⟩ := askedAt_iff.1 hasked
    exact ⟨k, hk, hr, fun j q hj hrel hqr => hlast j q (askedAt_iff.2 ⟨hj, hrel⟩) hqr⟩

theorem pairwise_names (entries : List (List Glyph)) :
    (Index.ofList (relevant (pairs entries))).names.Pairwise fun x y =>
      ∀ i j r q, FirstFor entries i r → FirstFor entries j q → r.old = x → q.old = y → i < j := by
  rw [Index.names_ofList, relevant]
  refine (pairwise_firstOccurrences (pairs entries) []).imp fun {x y} h => ?_
  intro i j r q hr hq hx hy
  obtain ⟨hj, hrel⟩ := askedAt_iff.1 hq.asked
  obtain ⟨m, p, hlt, hm, hprel, hp⟩ := h j q hj hrel hy
  have hle : i ≤ m := hr.first m p (askedAt_iff.2 ⟨hm, hprel⟩) (hp.trans hx.symm)
  omega

end ChangeList

/-- What is fetched is the index of the text. -/
theorem Action.fetchIndex_of_changeList {s : Session} {url : String} {text : List Glyph}
    {followRedirects : Bool}
    (h : s.web.changeList followRedirects url = .ok text) :
    ((fetchIndex url followRedirects).outcome s).1 =
      .ok (Index.ofList (ChangeList.renames text)) := by
  have hfetch := yields_fetchIndex s.web s.tree url followRedirects
  rw [hfetch.outcome_eq.1, Web.index, h]
  rfl

/-- The keys of an index, in order: the selectors of its names. -/
def Index.keys (index : Index) : List (List Glyph) :=
  index.names.map fun old => .char '.' :: old

/-- **Change lists.** The index of a text has a key for each name that some pair of entries asks for,
the keys stand in the order of the first such pairs, and what is found under a key is the last of them.
An odd last entry does not matter. -/
theorem index_by_positions (text : List Glyph) :
    let entries := ChangeList.entries text
    let index := Index.ofList (ChangeList.relevant (ChangeList.pairs entries))
    (∀ (s : Session) (url : String) (followRedirects : Bool),
      s.web.changeList followRedirects url = .ok text →
        ((Action.fetchIndex url followRedirects).outcome s).1 = .ok index) ∧
    (∀ key, key ∈ index.keys ↔ ∃ k r, ChangeList.AskedAt entries k r ∧ key = r.oldSelector) ∧
    (∀ r, index.find? r.oldSelector = some r ↔ ∃ k, ChangeList.LastFor entries k r) ∧
    (index.keys.Pairwise fun x y => ∀ i j r q, ChangeList.FirstFor entries i r →
      ChangeList.FirstFor entries j q → x = r.oldSelector → y = q.oldSelector → i < j) ∧
    (entries.length % 2 = 1 →
      Index.ofList (ChangeList.relevant (ChangeList.pairs entries.dropLast)) = index) := by
  intro entries index
  have hdot (old : List Glyph) (r : Rename) (h : .char '.' :: old = r.oldSelector) : r.old = old :=
    (List.cons.inj h).2.symm
  refine ⟨fun s url followRedirects htext => Action.fetchIndex_of_changeList htext, ?_,
    fun r => ChangeList.find?_index, ?_, ?_⟩
  · intro key
    rw [Index.keys, List.mem_map]
    constructor
    · rintro ⟨old, hold, rfl⟩
      obtain ⟨r, hr, rfl⟩ := Index.mem_names_ofList.1 hold
      obtain ⟨k, hk⟩ := ChangeList.mem_relevant_pairs.1 hr
      exact ⟨k, r, hk, rfl⟩
    · rintro ⟨k, r, hk, rfl⟩
      have hr := ChangeList.mem_relevant_pairs.2 ⟨k, hk⟩
      exact ⟨r.old, Index.mem_names_ofList.2 ⟨r, hr, rfl⟩, rfl⟩
  · rw [Index.keys, List.pairwise_map]
    refine (ChangeList.pairwise_names entries).imp fun {x y} h => ?_
    intro i j r q hr hq hx hy
    exact h i j r q hr hq (hdot x r hx) (hdot y q hy)
  · intro hodd
    rw [ChangeList.pairs_dropLast hodd]

/-- Later pairs win, save for one that changes nothing, and blank lines do not count. -/
example : (Index.ofList (ChangeList.renames
    "a_b\nx\n\n c_d \ny\r\na_b\nz\na_b\na_b\nc_d\nw\nodd_one")).renames =
      [⟨"a_b", "z"⟩, ⟨"c_d", "w"⟩] := by
  decide +kernel

end Restyle
