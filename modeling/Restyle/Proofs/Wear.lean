import Restyle.Proofs.Accounting

/-!
# How names wear off

If all names of an index can be names of classes, then a replacement puts a new name in the place of
an old one at the beginning of a name and leaves the tail of that name. If besides no old name begins
a new one, the next replacement in the same place uses up some of that tail (`Worn.replace`). So a
name cannot be replaced more often than it is long, and it never becomes what it was
(`WornAll.le_length`, `WornAll.eq_zero`).
-/

namespace Restyle

open Script

variable {α : Type} [Script α]

/-- An index of names of classes where no old name begins a new one. -/
structure Index.Settles (index : Index) : Prop where
  names : ∀ r ∈ index.renames, IsName r.old ∧ IsName r.new
  not_prefix : ∀ r ∈ index.renames, ∀ q ∈ index.renames, ¬ r.old <+: q.new

theorem Index.Settles.not_write_prefix {index : Index} (h : index.Settles) {r q : Rename}
    (hr : r ∈ index.renames) (hq : q ∈ index.renames) :
    ¬ (write r.old : List α) <+: write q.new :=
  fun hpre => h.not_prefix r hr q hq (prefix_of_write (h.names r hr).1.2 hpre)

/-! ## One name -/

/-- What a name can be after `n` replacements: itself, or a new name and a tail, where at least `n`
symbols that begin with an old name are used up. -/
inductive Worn (index : Index) (name : List α) : Nat → List α → Prop
  | whole : Worn index name 0 name
  | worn {r q : Rename} {used tail : List α} {n : Nat} : r ∈ index.renames → q ∈ index.renames →
      write r.old <+: used → n ≤ used.length → name = used ++ tail →
      Worn index name n (write q.new ++ tail)

/-- One replacement more uses up one symbol more. -/
theorem Worn.replace {index : Index} (hindex : index.Settles) {name now tail : List α} {n : Nat}
    {r : Rename} (h : Worn index name n now) (hr : r ∈ index.renames)
    (hnow : now = write r.old ++ tail) : Worn index name (n + 1) (write r.new ++ tail) := by
  cases h with
  | whole =>
    have hlen : 0 < (write r.old : List α).length :=
      List.length_pos_iff.2 (hindex.names r hr).1.write.1
    exact .worn hr hr List.prefix_rfl hlen hnow
  | @worn s q used rest _ hs hq hpre hn hname =>
    -- The old name that is found now is not within the new name, so it takes some of the tail.
    rcases List.append_eq_append_iff.1 hnow with ⟨more, hold, hrest⟩ | ⟨more, hnew, -⟩
    · have hmore : more ≠ [] := by
        intro hnil
        rw [hnil, List.append_nil] at hold
        exact hindex.not_write_prefix hr hq ⟨[], by rw [List.append_nil, hold]⟩
      have hpos : 0 < more.length := List.length_pos_iff.2 hmore
      refine .worn hs hr (hpre.trans (List.prefix_append used more)) ?_ ?_
      · rw [List.length_append]
        omega
      · rw [hname, hrest, List.append_assoc]
    · exact absurd ⟨more, hnew.symm⟩ (hindex.not_write_prefix hr hq)

theorem Worn.le_length {index : Index} {name now : List α} {n : Nat}
    (h : Worn index name n now) : n ≤ name.length := by
  cases h with
  | whole => exact Nat.zero_le _
  | worn _ _ _ hn hname =>
    rw [hname, List.length_append]
    omega

/-- A name never becomes what it was. -/
theorem Worn.eq_zero {index : Index} (hindex : index.Settles) {name now : List α} {n : Nat}
    (h : Worn index name n now) (hnow : now = name) : n = 0 := by
  cases h with
  | whole => rfl
  | @worn r q used tail _ hr hq hpre _ hname =>
    rw [hname] at hnow
    exact absurd (List.append_cancel_right hnow ▸ hpre) (hindex.not_write_prefix hr hq)

/-! ## All names of a text -/

/-- What the segments of a text can be after `n` replacements. -/
inductive WornAll (index : Index) : Nat → List (Segment α) → List (Segment α) → Prop
  | nil : WornAll index 0 [] []
  | symbol {c : α} {n : Nat} {segs segs' : List (Segment α)} : WornAll index n segs segs' →
      WornAll index n (.symbol c :: segs) (.symbol c :: segs')
  | selector {name name' : List α} {m n : Nat} {segs segs' : List (Segment α)} :
      Worn index name m name' → WornAll index n segs segs' →
      WornAll index (m + n) (.selector name :: segs) (.selector name' :: segs')

theorem WornAll.refl (index : Index) (segs : List (Segment α)) : WornAll index 0 segs segs := by
  induction segs with
  | nil => exact .nil
  | cons seg segs ih =>
    cases seg with
    | symbol c => exact .symbol ih
    | selector name => exact .selector .whole ih

theorem WornAll.replace {index : Index} (hindex : index.Settles)
    {segs left right : List (Segment α)} {tail : List α} {n : Nat} {r : Rename} (hr : r ∈ index.renames)
    (h : WornAll index n segs (left ++ .selector (write r.old ++ tail) :: right)) :
    WornAll index (n + 1) segs (left ++ .selector (write r.new ++ tail) :: right) := by
  induction left generalizing segs n with
  | nil =>
    cases h with
    | @selector _ _ m n _ _ hworn hrest =>
      rw [Nat.add_right_comm]
      exact .selector (hworn.replace hindex hr rfl) hrest
  | cons seg left ih =>
    cases h with
    | symbol hrest => exact .symbol (ih hrest)
    | selector hworn hrest =>
      rw [Nat.add_assoc]
      exact .selector hworn (ih hrest)

/-- There are no more replacements than symbols. -/
theorem WornAll.le_length {index : Index} {n : Nat} {segs segs' : List (Segment α)}
    (h : WornAll index n segs segs') : n ≤ (textOf segs).length := by
  induction h with
  | nil => exact Nat.zero_le _
  | symbol _ ih =>
    rw [textOf_symbol, List.length_cons]
    omega
  | selector hworn _ ih =>
    have := hworn.le_length
    rw [textOf_selector, List.length_cons, List.length_append]
    omega

/-- Segments that have been replaced are not what they were. -/
theorem WornAll.eq_zero {index : Index} (hindex : index.Settles) {n : Nat}
    {segs : List (Segment α)} (h : WornAll index n segs segs) : n = 0 := by
  induction segs generalizing n with
  | nil =>
    cases h
    rfl
  | cons seg segs ih =>
    cases h with
    | symbol hrest => exact ih hrest
    | selector hworn hrest => rw [hworn.eq_zero hindex rfl, ih hrest]

end Restyle
