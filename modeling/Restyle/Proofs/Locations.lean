import Restyle.Proofs.Files
import Restyle.Proofs.Lines

/-!
# Where paths lead

A path goes through directories and ends at a location (`Tree.location?`) unless it leads to a
directory, to the null device or nowhere. Making, changing and removing files keeps all directories, so
every path ends at the same location as before (`location?_eq`), and what is found by a path is what
stands there: reading, writing and removing are described by locations alone.
-/

namespace Restyle

open Text

namespace Tree

/-! ## The same directories -/

/-- The same locations are directories, the same ones are devices, and work is done at the same one. -/
structure SameDirectories (t t' : Tree) : Prop where
  here : t'.here = t.here
  directory : ∀ l, t'.node? l = some .directory ↔ t.node? l = some .directory
  device : ∀ l, t'.node? l = some .device ↔ t.node? l = some .device

theorem SameDirectories.refl (t : Tree) : SameDirectories t t :=
  ⟨rfl, fun _ => Iff.rfl, fun _ => Iff.rfl⟩

theorem SameDirectories.symm {t t' : Tree} (h : SameDirectories t t') : SameDirectories t' t :=
  ⟨h.here.symm, fun l => (h.directory l).symm, fun l => (h.device l).symm⟩

theorem SameDirectories.trans {t t' t'' : Tree} (h : SameDirectories t t')
    (h' : SameDirectories t' t'') : SameDirectories t t'' :=
  ⟨h'.here.trans h.here, fun l => (h'.directory l).trans (h.directory l),
    fun l => (h'.device l).trans (h.device l)⟩

theorem SameDirectories.start_eq {t t' : Tree} (h : SameDirectories t t') (path : String) :
    t'.start path = t.start path := by
  rw [start, h.here, start]

theorem sameDirectories_place (t : Tree) (l : Location) (content : Octets) :
    SameDirectories t (t.place l (.file content)) := by
  by_cases hadmits : t.Admits l (.file content)
  · have hsame (n : Node) (hn : n.isFile = false) (m : Location) :
        (t.place l (.file content)).node? m = some n ↔ t.node? m = some n := by
      by_cases hm : m = l
      · subst hm
        rw [node?_place_self hadmits]
        rcases hadmits.cases with hnode | ⟨old, hnode⟩ <;> rw [hnode] <;> cases n <;>
          simp_all [Node.isFile]
      · rw [node?_place_of_ne t _ hm]
    exact ⟨here_place t l _, hsame .directory rfl, hsame .device rfl⟩
  · rw [place_of_not_admits hadmits]
    exact .refl t

theorem sameDirectories_erase {t : Tree} {l : Location} (h : t.node? l ≠ some .device) :
    SameDirectories t (t.erase l) := by
  by_cases hdir : t.node? l = some .directory
  · rw [erase, dif_pos hdir]
    exact .refl t
  · have hsame (n : Node) (hn : t.node? l ≠ some n) (m : Location) :
        (t.erase l).node? m = some n ↔ t.node? m = some n := by
      by_cases hm : m = l
      · subst hm
        rw [node?_erase_self hdir]
        exact iff_of_false (by simp) hn
      · rw [node?_erase_of_ne t hm]
    exact ⟨here_erase t l, hsame .directory hdir, hsame .device h⟩

/-! ## Ends of paths -/

/-- A place as it is in another tree. -/
def Place.seenIn (t : Tree) : Place → Place
  | .file l _ => t.placeAt l
  | .free l => t.placeAt l
  | p => p

theorem seenIn_placeAt {t t' : Tree} (h : SameDirectories t t') (l : Location) :
    (t.placeAt l).seenIn t' = t'.placeAt l := by
  rw [placeAt]
  cases hnode : t.node? l with
  | none => rfl
  | some node =>
    cases node with
    | directory => rw [placeAt, (h.directory l).2 hnode]; rfl
    | device => rw [placeAt, (h.device l).2 hnode]; rfl
    | file content => rfl

theorem Walks.of_sameDirectories {t t' : Tree} (h : SameDirectories t t') {here : Location}
    {steps : List String} {p : Place} (hw : t.Walks here steps p) :
    t'.Walks here steps (p.seenIn t') := by
  induction hw with
  | done here => exact .done here
  | stay hstay _ ih => exact .stay hstay ih
  | up _ ih => exact .up ih
  | down hdown hnode _ ih => exact .down hdown ((h.directory _).2 hnode) ih
  | stop hdown hnode =>
    rw [seenIn_placeAt h]
    exact .stop hdown fun e => hnode ((h.directory _).1 e)

/-- A path leads to the same location in trees with the same directories. -/
theorem walk_of_sameDirectories {t t' : Tree} (h : SameDirectories t t') {path : String}
    {p : Place} (hw : t.walk path = .ok p) : t'.walk path = .ok (p.seenIn t') := by
  obtain ⟨hnul, hempty, hlong, hw⟩ := walk_eq_ok_iff.1 hw
  refine walk_eq_ok_iff.2 ⟨hnul, hempty, hlong, ?_⟩
  rw [h.start_eq]
  exact walkFrom_eq_ok_iff.2 ((walkFrom_eq_ok_iff.1 hw).of_sameDirectories h)

/-! ## Locations of paths -/

/-- The location that a path ends at, where a file stands or can be made. -/
def location? (t : Tree) (path : String) : Option Location :=
  match t.walk path with
  | .ok (.file l _) => some l
  | .ok (.free l) => some l
  | _ => none

/-- The names of a way down: they are what paths consist of. -/
def IsWay (steps : List String) : Prop :=
  ∀ step ∈ steps, Path.slash ∉ step.toList ∧ Path.hasNul step = false

theorem isWay_pieces {path : String} (h : Path.hasNul path = false) : IsWay (Path.pieces path) := by
  intro step hstep
  obtain ⟨piece, hpiece, rfl⟩ := List.mem_map.1 hstep
  have hmem := mem_of_mem_splitOn hpiece
  rw [String.toList_ofList]
  refine ⟨fun hslash => (hmem _ hslash).2 rfl, ?_⟩
  simp only [Path.hasNul, List.any_eq_false, String.toList_ofList] at h ⊢
  exact fun c hc => h c (hmem c hc).1

theorem isLegalName_of_isDown {step : String} (h : IsDown step) (hslash : Path.slash ∉ step.toList)
    (hnul : Path.hasNul step = false) : isLegalName step = true := by
  simp only [isLegalName, Bool.and_eq_true, decide_eq_true_eq]
  refine ⟨⟨⟨⟨h.1, by simpa using h.2.1⟩, by simpa using hslash⟩, ?_⟩, h.2.2⟩
  rw [hnul]
  rfl

/-- Under a legal name in a directory, a file can be made where nothing stands. -/
theorem admits_of_free {t : Tree} {here : Location} {name : String}
    (hhere : t.node? here = some .directory) (hname : isLegalName name = true)
    (hfree : t.node? (here ++ [name]) = none) (content : Octets) :
    t.Admits (here ++ [name]) (.file content) where
  ne_root := by simp
  legal := List.forall_mem_append.2 ⟨legal_of_node hhere, by simpa using hname⟩
  parent := by rwa [List.dropLast_concat]
  replaced := by rw [hfree]; rfl
  device := by simp

/-- Above a directory there is a directory, and the root is above itself. -/
theorem directory_dropLast {t : Tree} {l : Location} (h : t.node? l = some .directory) :
    t.node? l.dropLast = some .directory := by
  by_cases hl : l = []
  · rw [hl]
    rfl
  · exact directory_of_node hl h

/-- Every path starts at a directory. -/
theorem node?_start (t : Tree) (path : String) : t.node? (t.start path) = some .directory := by
  unfold start
  split
  · rfl
  · exact t.here_directory

/-- Where a path ends at a name that is free, a file can be made. -/
theorem Walks.admits {t : Tree} {here l : Location} {steps : List String} {p : Place}
    (h : t.Walks here steps p) (hp : p = .free l) (hway : IsWay steps)
    (hhere : t.node? here = some .directory) (content : Octets) :
    t.node? l = none ∧ t.Admits l (.file content) := by
  have hrest {step : String} {rest : List String} (hway : IsWay (step :: rest)) : IsWay rest :=
    fun s hs => hway s (List.mem_cons_of_mem _ hs)
  induction h with
  | done => cases hp
  | stay _ _ ih => exact ih hp (hrest hway) hhere
  | up _ ih => exact ih hp (hrest hway) (directory_dropLast hhere)
  | down _ hnode _ ih => exact ih hp (hrest hway) hnode
  | @stop here step hdown hnode =>
    obtain ⟨hfree, hl⟩ := node?_of_placeAt hp
    obtain rfl := hl l rfl
    obtain ⟨hslash, hnul⟩ := hway step List.mem_cons_self
    exact ⟨hfree, admits_of_free hhere (isLegalName_of_isDown hdown hslash hnul) hfree content⟩

theorem admits_of_walk {t : Tree} {path : String} {l : Location} (hw : t.walk path = .ok (.free l))
    (content : Octets) : t.node? l = none ∧ t.Admits l (.file content) := by
  obtain ⟨hnul, -, -, hw⟩ := walk_eq_ok_iff.1 hw
  exact (walkFrom_eq_ok_iff.1 hw).admits rfl (isWay_pieces hnul) (t.node?_start path) content

/-- What a path leads to is what stands where it ends. -/
theorem walk_of_location {t : Tree} {path : String} {l : Location}
    (h : t.location? path = some l) : t.walk path = .ok (t.placeAt l) := by
  unfold location? at h
  split at h
  case h_1 content hw =>
    cases h
    rw [hw, placeAt, node?_of_walk hw]
  case h_2 hw =>
    cases h
    rw [hw, placeAt, (admits_of_walk hw []).1]
  case h_3 => cases h

theorem location_of_walk_file {t : Tree} {path : String} {l : Location} {content : Octets}
    (h : t.walk path = .ok (.file l content)) : t.location? path = some l := by
  rw [location?, h]

/-- A path ends at what is free and at files. -/
theorem node?_of_location {t : Tree} {path : String} {l : Location}
    (h : t.location? path = some l) :
    t.node? l = none ∨ ∃ content, t.node? l = some (.file content) := by
  have hw := walk_of_location h
  rw [placeAt] at hw
  rw [location?, hw] at h
  cases hnode : t.node? l with
  | none => exact .inl rfl
  | some node =>
    rw [hnode] at h
    cases node with
    | file content => exact .inr ⟨content, rfl⟩
    | directory | device => cases h

theorem not_directory_of_location {t : Tree} {path : String} {l : Location}
    (h : t.location? path = some l) : t.node? l ≠ some .directory := by
  rcases node?_of_location h with hnode | ⟨content, hnode⟩ <;> simp [hnode]

theorem not_device_of_location {t : Tree} {path : String} {l : Location}
    (h : t.location? path = some l) : t.node? l ≠ some .device := by
  rcases node?_of_location h with hnode | ⟨content, hnode⟩ <;> simp [hnode]

theorem admits_of_location {t : Tree} {path : String} {l : Location}
    (h : t.location? path = some l) (content : Octets) : t.Admits l (.file content) := by
  rcases node?_of_location h with hfree | ⟨old, hfile⟩
  · have hw := walk_of_location h
    rw [placeAt, hfree] at hw
    exact (admits_of_walk hw content).2
  · exact admits_of_file hfile content

/-- A path ends at the same location in trees with the same directories. -/
theorem location_mono {t t' : Tree} (h : SameDirectories t t') {path : String} {l : Location}
    (hl : t.location? path = some l) : t'.location? path = some l := by
  have hw := walk_of_sameDirectories h (walk_of_location hl)
  rw [seenIn_placeAt h, placeAt] at hw
  rw [location?, hw]
  cases hnode : t'.node? l with
  | none => rfl
  | some node =>
    cases node with
    | file content => rfl
    | directory => exact absurd ((h.directory l).1 hnode) (not_directory_of_location hl)
    | device => exact absurd ((h.device l).1 hnode) (not_device_of_location hl)

theorem location?_eq {t t' : Tree} (h : SameDirectories t t') (path : String) :
    t'.location? path = t.location? path := by
  cases hl : t.location? path with
  | some l => exact location_mono h hl
  | none =>
    cases hl' : t'.location? path with
    | none => rfl
    | some l =>
      rw [location_mono h.symm hl'] at hl
      cases hl

/-! ## Operations by location -/

theorem isFile_iff {t : Tree} {path : String} :
    t.isFile path = true ↔
      ∃ l content, t.location? path = some l ∧ t.node? l = some (.file content) := by
  constructor
  · intro h
    unfold isFile at h
    split at h
    · rename_i l content hw
      exact ⟨l, content, location_of_walk_file hw, node?_of_walk hw⟩
    · cases h
  · rintro ⟨l, content, hl, hnode⟩
    rw [isFile, walk_of_location hl, placeAt, hnode]

theorem read_of_location {t : Tree} {path : String} {l : Location} {content : Octets}
    (hl : t.location? path = some l) (hnode : t.node? l = some (.file content)) :
    t.read path = .ok content := by
  have hw := walk_of_location hl
  rw [placeAt, hnode] at hw
  exact read_of_walk hw

theorem write_of_location {t : Tree} {path : String} {l : Location}
    (hl : t.location? path = some l) (content : Octets) :
    t.write path content = .ok (t.place l (.file content)) := by
  have hw := walk_of_location hl
  rw [placeAt] at hw
  rcases node?_of_location hl with hnode | ⟨old, hnode⟩
  · rw [hnode] at hw
    rw [write, hw]
    rfl
  · rw [hnode] at hw
    exact write_of_walk hw content

/-- A file is written where its path ends; only the null device takes what is written and changes
nothing. -/
theorem write_cases {t tree : Tree} {path : String} {content : Octets}
    (h : t.write path content = .ok tree) :
    (∃ l, t.location? path = some l ∧ tree = t.place l (.file content)) ∨
      t.walk path = .ok .device ∧ tree = t := by
  cases hl : t.location? path with
  | some l =>
    rw [write_of_location hl] at h
    cases h
    exact .inl ⟨l, rfl, rfl⟩
  | none =>
    cases hw : t.walk path with
    | error fault =>
      rw [write, hw] at h
      cases h
    | ok p =>
      rw [write, hw] at h
      rw [location?, hw] at hl
      cases p with
      | file l old => cases hl
      | free l => cases hl
      | device =>
        cases h
        exact .inr ⟨rfl, rfl⟩
      | directory l => cases h

/-- Writing keeps all directories and touches nothing but the place of its path. -/
theorem write_others {t tree : Tree} {path : String} {content : Octets}
    (h : t.write path content = .ok tree) : t.SameDirectories tree ∧
      ∀ l, t.location? path ≠ some l → tree.node? l = t.node? l := by
  rcases write_cases h with ⟨l, hl, rfl⟩ | ⟨-, rfl⟩
  · refine ⟨sameDirectories_place t l content, fun m hm => node?_place_of_ne t _ ?_⟩
    rintro rfl
    exact hm hl
  · exact ⟨.refl tree, fun _ _ => rfl⟩

/-- After writing a path leads to what was written. -/
theorem walk_of_write {t tree : Tree} {path : String} {content : Octets}
    (h : t.write path content = .ok tree) (hdevice : t.walk path ≠ .ok .device) :
    ∃ l, tree.walk path = .ok (.file l content) := by
  rcases write_cases h with ⟨l, hl, rfl⟩ | ⟨hw, -⟩
  · have hl' := location_mono (sameDirectories_place t l content) hl
    have hnode := node?_place_self (admits_of_location hl content)
    refine ⟨l, ?_⟩
    rw [walk_of_location hl', placeAt, hnode]
  · exact absurd hw hdevice

/-- What can be written can be written over something else. -/
theorem write_write {t tree : Tree} {path : String} {content : Octets}
    (h : t.write path content = .ok tree) (first : Octets) :
    ∃ before, t.write path first = .ok before ∧ before.write path content = .ok tree := by
  rcases write_cases h with ⟨l, hl, rfl⟩ | ⟨hw, rfl⟩
  · have hl' := location_mono (sameDirectories_place t l first) hl
    refine ⟨_, write_of_location hl first, ?_⟩
    rw [write_of_location hl', place_place (admits_of_location hl _) (admits_of_location hl _)]
  · have hdevice (content : Octets) : tree.write path content = .ok tree := by
      rw [write, hw]
      rfl
    exact ⟨tree, hdevice first, hdevice content⟩

/-- A file is removed where its path ends. -/
theorem remove_cases {t tree : Tree} {path : String} (h : t.remove path = .ok tree) :
    (∃ l, t.location? path = some l ∧ tree = t.erase l) ∨
      t.walk path = .ok .device ∧ tree = t := by
  cases hw : t.walk path with
  | error fault =>
    rw [remove, hw] at h
    cases h
  | ok p =>
    rw [remove, hw] at h
    cases p with
    | file l old =>
      cases h
      exact .inl ⟨l, location_of_walk_file hw, rfl⟩
    | device =>
      cases h
      exact .inr ⟨rfl, rfl⟩
    | free l => cases h
    | directory l => cases h

/-- Removing keeps all directories and touches nothing but the place of its path. -/
theorem remove_others {t tree : Tree} {path : String} (h : t.remove path = .ok tree) :
    t.SameDirectories tree ∧ ∀ l, t.location? path ≠ some l → tree.node? l = t.node? l := by
  rcases remove_cases h with ⟨l, hl, rfl⟩ | ⟨-, rfl⟩
  · refine ⟨sameDirectories_erase (not_device_of_location hl), fun m hm => node?_erase_of_ne t ?_⟩
    rintro rfl
    exact hm hl
  · exact ⟨.refl tree, fun _ _ => rfl⟩

/-- Where there is nothing to remove, there is no file. -/
theorem not_isFile_of_remove {t : Tree} {path : String} (h : t.remove path = .error .notFound) :
    t.isFile path = false := by
  unfold isFile
  split
  · rename_i l content hw
    rw [remove, hw] at h
    cases h
  · rfl

end Tree

end Restyle
