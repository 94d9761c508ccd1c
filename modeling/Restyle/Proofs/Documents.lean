import Restyle.Proofs.Merging
import Restyle.Proofs.Results
import Restyle.Toml.Reader

/-!
# Documents repeat no key

A table that is read from a document has no key twice, at any depth (`Toml.proper_readTable`). A field
is added only where its key is new, headers and dotted keys change a table at the end of a path
(`Toml.proper_updateAt`), and all else keeps what was read before.
-/

namespace Restyle.Toml

open Table Value

/-! ## Changes of a draft -/

variable {t t' : Table} {key : String} {v : Value}

theorem proper_empty : Proper (.table []) :=
  .table List.nodup_nil (by simp)

/-- A change at the end of a path keeps what a change of one table keeps. -/
theorem proper_updateAt {enterLists : Bool} {f : Table → Option Table}
    (hf : ∀ t t', f t = some t' → Proper (.table t) → Proper (.table t')) (path : KeyPath)
    (h : updateAt enterLists f path t = some t') (ht : Proper (.table t)) : Proper (.table t') := by
  induction path generalizing t t' with
  | nil => exact hf t t' h ht
  | cons key rest ih =>
    rw [updateAt] at h
    split at h
    · obtain ⟨sub, hsub, rfl⟩ := Option.map_eq_some_iff.1 h
      exact ht.put key (ih hsub proper_empty)
    · rename_i sub hget
      obtain ⟨sub', hsub, rfl⟩ := Option.map_eq_some_iff.1 h
      exact ht.put key (ih hsub (ht.get? hget))
    · rename_i items hget
      have hitems := (ht.get? hget).items
      split at h
      · rename_i last hlast
        obtain ⟨last', hlast', rfl⟩ := Option.map_eq_some_iff.1 h
        refine ht.put key (.list fun item hitem => ?_)
        rcases List.mem_append.1 hitem with hitem | hitem
        · exact hitems item (List.dropLast_subset items hitem)
        · rw [List.mem_singleton.1 hitem]
          exact ih hlast' (hitems _ (List.mem_of_getLast? hlast))
      · cases h
    · cases h

theorem proper_addField (hv : Proper v) (h : addField key v t = some t')
    (ht : Proper (.table t)) : Proper (.table t') := by
  rw [addField] at h
  split at h
  · cases h
  · cases h
    exact ht.put key hv

theorem proper_addItem (h : addItem key t = some t') (ht : Proper (.table t)) :
    Proper (.table t') := by
  rw [addItem] at h
  split at h
  · cases h
    refine ht.put key (.list fun item hitem => ?_)
    rw [List.mem_singleton.1 hitem]
    exact proper_empty
  · rename_i items hget
    cases h
    refine ht.put key (.list fun item hitem => ?_)
    rcases List.mem_append.1 hitem with hitem | hitem
    · exact (ht.get? hget).items item hitem
    · rw [List.mem_singleton.1 hitem]
      exact proper_empty
  · cases h

namespace Draft

variable {d d' : Draft} {path : KeyPath}

theorem proper_openTable (h : d.openTable path = some d') (hd : Proper (.table d.table)) :
    Proper (.table d'.table) := by
  unfold openTable at h
  dsimp only at h
  split at h
  · cases h
  · obtain ⟨table, htable, h⟩ := Option.bind_eq_some_iff.1 h
    cases h
    exact proper_updateAt (fun t t' h ht => Option.some.inj h ▸ ht) path htable hd

theorem proper_openItem (h : d.openItem path = some d') (hd : Proper (.table d.table)) :
    Proper (.table d'.table) := by
  unfold openItem at h
  obtain ⟨key, -, h⟩ := Option.bind_eq_some_iff.1 h
  split at h
  · cases h
  · obtain ⟨table, htable, h⟩ := Option.bind_eq_some_iff.1 h
    cases h
    exact proper_updateAt (fun t t' => proper_addItem) path.dropLast htable hd

theorem proper_assign (hv : Proper v) (h : d.assign path v = some d')
    (hd : Proper (.table d.table)) : Proper (.table d'.table) := by
  unfold assign at h
  obtain ⟨key, -, h⟩ := Option.bind_eq_some_iff.1 h
  dsimp only at h
  split at h
  · cases h
  · obtain ⟨table, htable, h⟩ := Option.bind_eq_some_iff.1 h
    cases h
    exact proper_updateAt (fun t t' => proper_addField hv) _ htable hd

end Draft

theorem InlineDraft.proper_assign {d d' : InlineDraft} {path : KeyPath} (hv : Proper v)
    (h : d.assign path v = some d') (hd : Proper (.table d.table)) : Proper (.table d'.table) := by
  unfold assign at h
  obtain ⟨key, -, h⟩ := Option.bind_eq_some_iff.1 h
  split at h
  · cases h
  · obtain ⟨table, htable, h⟩ := Option.bind_eq_some_iff.1 h
    cases h
    exact proper_updateAt (fun t t' => proper_addField hv) path.dropLast htable hd

/-! ## Scalars -/

/-- Whether nothing but a scalar begins here. -/
def Scan.IsFlat (scan : Scan) : Prop :=
  ∀ v rest, scan = some (.ok v, rest) → isNested v = false

theorem isFlat_none : Scan.IsFlat none := by
  intro v rest h
  cases h

theorem isFlat_ok {rest : List Char} (h : isNested v = false) : Scan.IsFlat (some (.ok v, rest)) := by
  rintro _ _ ⟨⟩
  exact h

theorem isFlat_or {scan scan' : Scan} (h : scan.IsFlat) (h' : scan'.IsFlat) :
    Scan.IsFlat (scan <|> scan') := by
  cases scan with
  | none => exact h'
  | some found => exact h

theorem isFlat_truth? (cs : List Char) : (truth? cs).IsFlat := by
  unfold truth?
  split
  · exact isFlat_ok rfl
  · exact isFlat_ok rfl
  · exact isFlat_none

theorem isFlat_moment? (cs : List Char) : (moment? cs).IsFlat := by
  intro v rest h
  unfold moment? at h
  obtain ⟨⟨date, after⟩, -, h⟩ := Option.bind_eq_some_iff.1 h
  dsimp only at h
  have hcheck {v w : Value} (hw : isNested w = false)
      (h : (if date.isValid then Except.ok w else .error ReadError.malformed) = .ok v) :
      isNested v = false := by
    split at h
    · cases h
      exact hw
    · cases h
  split at h
  · exact hcheck rfl (Prod.mk.inj (Option.some.inj h)).1
  · exact hcheck rfl (Prod.mk.inj (Option.some.inj h)).1

theorem isFlat_prefixedInteger? (cs : List Char) : (prefixedInteger? cs).IsFlat := by
  unfold prefixedInteger?
  split
  · split
    · split
      · exact isFlat_none
      · exact isFlat_ok rfl
    · exact isFlat_none
  · exact isFlat_none

theorem isFlat_decimalNumber? (cs : List Char) : (decimalNumber? cs).IsFlat := by
  unfold decimalNumber?
  dsimp only
  split
  · exact isFlat_none
  · split
    · intro v rest h
      have hinteger := (Prod.mk.inj (Option.some.inj h)).1
      unfold decimalInteger at hinteger
      split at hinteger
      · cases hinteger
      · cases hinteger
        rfl
    · exact isFlat_ok rfl

theorem isFlat_namedNumber? (cs : List Char) : (namedNumber? cs).IsFlat := by
  unfold namedNumber?
  split
  · exact isFlat_ok rfl
  · exact isFlat_ok rfl
  · exact isFlat_none

theorem proper_scalar {cs rest : List Char} (h : scalar cs = .ok (v, rest)) : Proper v := by
  have hclock : Scan.IsFlat ((clock? cs).map fun found => (.ok (.clock found.1), found.2)) := by
    cases clock? cs with
    | none => exact isFlat_none
    | some found => exact isFlat_ok rfl
  have hall := isFlat_or (isFlat_truth? cs) (isFlat_or (isFlat_moment? cs) (isFlat_or hclock
    (isFlat_or (isFlat_prefixedInteger? cs) (isFlat_or (isFlat_decimalNumber? cs)
      (isFlat_namedNumber? cs)))))
  unfold scalar at h
  dsimp only at h
  split at h
  · rename_i found after hfound
    cases found with
    | error e => cases h
    | ok w =>
      obtain ⟨rfl, rfl⟩ := Prod.mk.inj (Except.ok.inj h)
      exact .scalar (hall _ _ hfound)
  · cases h

/-! ## Values -/

theorem eq_some_of_orMalformed {β : Type} {x : Option β} {b : β} (h : orMalformed x = .ok b) :
    x = some b := by
  cases x with
  | none => cases h
  | some found => rw [Except.ok.inj h]

/-- What is read in a number of steps repeats no key, if what was read before does not. -/
structure ProperWithin (fuel : Nat) : Prop where
  value {cs rest : List Char} {v : Value} : value fuel cs = .ok (v, rest) → Proper v
  items {done : List Value} {cs rest : List Char} {v : Value} : (∀ item ∈ done, Proper item) →
    items fuel done cs = .ok (v, rest) → Proper v
  fields {done : InlineDraft} {cs rest : List Char} {v : Value} : Proper (.table done.table) →
    fields fuel done cs = .ok (v, rest) → Proper v

variable {fuel : Nat} {cs rest : List Char}

theorem ProperWithin.value_succ (h : ProperWithin fuel)
    (hread : Toml.value (fuel + 1) cs = .ok (v, rest)) : Proper v := by
  unfold Toml.value at hread
  split at hread
  · obtain ⟨after, -, hread⟩ := exists_of_bind_ok hread
    exact h.items (by simp) hread
  · obtain ⟨after, -, hread⟩ := exists_of_bind_ok hread
    exact h.fields proper_empty hread
  · obtain ⟨found, -, hread⟩ := exists_of_bind_ok hread
    cases hread
    exact .scalar rfl
  · obtain ⟨found, -, hread⟩ := exists_of_bind_ok hread
    cases hread
    exact .scalar rfl
  · exact proper_scalar hread

theorem ProperWithin.items_succ (h : ProperWithin fuel) {done : List Value}
    (hdone : ∀ item ∈ done, Proper item) (hread : Toml.items (fuel + 1) done cs = .ok (v, rest)) :
    Proper v := by
  have hreverse {done : List Value} (hdone : ∀ item ∈ done, Proper item) :
      Proper (.list done.reverse) :=
    .list fun item hitem => hdone item (List.mem_reverse.1 hitem)
  unfold Toml.items at hread
  split at hread
  · cases hread
    exact hreverse hdone
  · obtain ⟨⟨item, after⟩, hitem, hread⟩ := exists_of_bind_ok hread
    have hmore : ∀ other ∈ item :: done, Proper other :=
      List.forall_mem_cons.2 ⟨h.value hitem, hdone⟩
    obtain ⟨found, -, hread⟩ := exists_of_bind_ok hread
    split at hread
    · cases hread
      exact hreverse hmore
    · obtain ⟨next, -, hread⟩ := exists_of_bind_ok hread
      exact h.items hmore hread
    · cases hread

theorem ProperWithin.fields_succ (h : ProperWithin fuel) {done : InlineDraft}
    (hdone : Proper (.table done.table))
    (hread : Toml.fields (fuel + 1) done cs = .ok (v, rest)) : Proper v := by
  unfold Toml.fields at hread
  split at hread
  · cases hread
    exact hdone
  · obtain ⟨⟨path, after⟩, -, hread⟩ := exists_of_bind_ok hread
    obtain ⟨behind, -, hread⟩ := exists_of_bind_ok hread
    obtain ⟨⟨field, left⟩, hfield, hread⟩ := exists_of_bind_ok hread
    obtain ⟨more, hmore, hread⟩ := exists_of_bind_ok hread
    have hproper : Proper (.table more.table) :=
      InlineDraft.proper_assign (h.value hfield) (eq_some_of_orMalformed hmore) hdone
    obtain ⟨found, -, hread⟩ := exists_of_bind_ok hread
    split at hread
    · cases hread
      exact hproper
    · obtain ⟨next, -, hread⟩ := exists_of_bind_ok hread
      exact h.fields hproper hread
    · cases hread

theorem properWithin (fuel : Nat) : ProperWithin fuel := by
  induction fuel with
  | zero =>
    refine ⟨fun h => ?_, fun _ h => ?_, fun _ h => ?_⟩ <;> cases h
  | succ fuel ih => exact ⟨ih.value_succ, ih.items_succ, ih.fields_succ⟩

/-! ## Documents -/

variable {d d' : Draft}

theorem proper_headerStatement (h : headerStatement d cs = .ok (d', rest))
    (hd : Proper (.table d.table)) : Proper (.table d'.table) := by
  unfold headerStatement at h
  split at h
  · obtain ⟨⟨path, after⟩, -, h⟩ := exists_of_bind_ok h
    obtain ⟨opened, hopened, h⟩ := exists_of_bind_ok h
    obtain ⟨left, -, h⟩ := exists_of_bind_ok h
    cases h
    exact Draft.proper_openItem (eq_some_of_orMalformed hopened) hd
  · obtain ⟨⟨path, after⟩, -, h⟩ := exists_of_bind_ok h
    obtain ⟨opened, hopened, h⟩ := exists_of_bind_ok h
    obtain ⟨left, -, h⟩ := exists_of_bind_ok h
    cases h
    exact Draft.proper_openTable (eq_some_of_orMalformed hopened) hd
  · cases h

theorem proper_fieldStatement (h : fieldStatement d cs = .ok (d', rest))
    (hd : Proper (.table d.table)) : Proper (.table d'.table) := by
  unfold fieldStatement at h
  obtain ⟨⟨path, after⟩, -, h⟩ := exists_of_bind_ok h
  obtain ⟨behind, -, h⟩ := exists_of_bind_ok h
  obtain ⟨⟨v, left⟩, hv, h⟩ := exists_of_bind_ok h
  obtain ⟨assigned, hassigned, h⟩ := exists_of_bind_ok h
  cases h
  exact Draft.proper_assign ((properWithin _).value hv) (eq_some_of_orMalformed hassigned) hd

/-- One statement repeats no key. -/
theorem proper_statement (h : statement d cs = .ok (d', rest)) (hd : Proper (.table d.table)) :
    Proper (.table d'.table) := by
  unfold statement at h
  split at h
  · cases h
    exact hd
  · cases h
    exact hd
  · cases h
    exact hd
  · exact proper_headerStatement h hd
  · exact proper_fieldStatement h hd

theorem proper_statements {left : Nat} (h : statements left d cs = .ok d')
    (hd : Proper (.table d.table)) : Proper (.table d'.table) := by
  induction left generalizing d cs with
  | zero => cases h
  | succ left ih =>
    unfold statements at h
    obtain ⟨⟨next, after⟩, hnext, h⟩ := exists_of_bind_ok h
    have hproper := proper_statement hnext hd
    obtain ⟨behind, -, h⟩ := exists_of_bind_ok h
    split at h
    · cases h
      exact hproper
    · exact ih h hproper
    · cases h

/-- A document repeats no key in a table. -/
theorem proper_readTable {document : String} {table : Table} (h : readTable document = .ok table) :
    Proper (.table table) := by
  unfold readTable at h
  obtain ⟨d, hd, h⟩ := exists_of_bind_ok h
  cases h
  exact proper_statements hd proper_empty

end Restyle.Toml
