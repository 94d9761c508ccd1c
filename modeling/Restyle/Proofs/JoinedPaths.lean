import Restyle.FileSet
import Restyle.Proofs.Locations
import Restyle.Proofs.PathText

/-!
# Joined paths

A path that is joined to a directory goes on from there (`walk_join`), and nothing can be joined to
what is no directory. The names in a directory are the steps to its entries (`mem_list`,
`mem_descend`, `Walks.eq_placeAt`).
-/

namespace Restyle

open Text

/-! ## Walking on -/

namespace Tree

/-- A path goes on from the directory that its first part leads to. -/
theorem walkFrom_append {t : Tree} {here : Location} {front rest : List String}
    (hrest : rest ≠ []) (p : Place) : t.walkFrom here (front ++ rest) = .ok p ↔
      ∃ l, t.walkFrom here front = .ok (.directory l) ∧ t.walkFrom l rest = .ok p := by
  induction front generalizing here with
  | nil => simp [walkFrom]
  | cons step front ih =>
    have hmore : front ++ rest ≠ [] := by simp [hrest]
    rw [List.cons_append, walkFrom, walkFrom, if_neg hmore]
    split
    · exact ih
    split
    · exact ih
    split
    · simp
    split
    · exact ih
    · -- What is no directory is the end of a path.
      rename_i hdirectory
      have hend (l : Location) : t.placeAt (here ++ [step]) ≠ .directory l := by
        intro h
        exact hdirectory (node?_of_placeAt h).1
      split_ifs <;> simp [hend]

/-- Empty steps at the end lead nowhere else. -/
theorem walkFrom_append_empty {t : Tree} {here l : Location} {front : List String}
    (h : t.walkFrom here front = .ok (.directory l)) :
    t.walkFrom here (front ++ [""]) = .ok (.directory l) :=
  (walkFrom_append (by simp) _).2 ⟨l, h, rfl⟩

/-- A joined path starts where the directory does. -/
theorem start_join (t : Tree) {directory name : String} (hdirectory : directory ≠ "")
    (hname : Path.isAbsolute name = false) :
    t.start (Path.join directory name) = t.start directory := by
  rw [start, Path.isAbsolute_join hdirectory hname, start]

theorem start_relative (t : Tree) {path : String} (h : Path.isAbsolute path = false) :
    t.start path = t.here := by
  rw [start, h, if_neg Bool.false_ne_true]

/-- A joined path goes on from the directory that its first part leads to. -/
theorem walk_join {t : Tree} {directory name : String} {p : Place} (hdirectory : directory ≠ "")
    (hname : Path.isAbsolute name = false) (h : t.walk (Path.join directory name) = .ok p) :
    ∃ l, t.walk directory = .ok (.directory l) ∧ t.walkFrom l (Path.pieces name) = .ok p := by
  obtain ⟨hnul, -, hlong, hwalk⟩ := walk_eq_ok_iff.1 h
  rw [t.start_join hdirectory hname, Path.pieces_join hdirectory hname,
    walkFrom_append (Path.pieces_ne_nil name)] at hwalk
  obtain ⟨l, hl, hp⟩ := hwalk
  refine ⟨l, walk_eq_ok_iff.2 ⟨?_, hdirectory, ?_, ?_⟩, hp⟩
  -- The directory is a shorter text without NUL.
  · obtain ⟨rest, hrest⟩ := Path.exists_join_eq directory hname
    rw [hrest, Path.hasNul_append, Bool.or_eq_false_iff] at hnul
    exact hnul.1
  · exact Nat.lt_of_le_of_lt (Path.size_le_size_join directory hname) hlong
  · rcases Path.pieces_cases directory with hpieces | hpieces
    · rw [hpieces, hl]
    · rw [hpieces, walkFrom_append_empty hl]

/-- What a relative path can be joined to is a directory. -/
theorem isDirectory_of_join {t : Tree} {directory name : String} {p : Place}
    (hdirectory : directory ≠ "") (hname : Path.isAbsolute name = false)
    (h : t.walk (Path.join directory name) = .ok p) : t.isDirectory directory = true := by
  obtain ⟨l, hl, -⟩ := walk_join hdirectory hname h
  rw [isDirectory, hl]

/-- The last step to the null device is its name. -/
theorem eq_of_walk_device {t : Tree} {path : String} {front : List String} {last : String}
    (hpieces : Path.pieces path = front ++ [last]) (h : t.walk path = .ok .device) :
    last = "null" := by
  obtain ⟨-, -, -, hwalk⟩ := walk_eq_ok_iff.1 h
  rw [hpieces, walkFrom_append (by simp)] at hwalk
  obtain ⟨l, -, hlast⟩ := hwalk
  have hwalks := walkFrom_eq_ok_iff.1 hlast
  generalize hend : Place.device = p at hwalks
  cases hwalks with
  | stay _ hrest | up hrest | down _ _ hrest =>
    subst hend
    cases hrest
  | stop =>
    have hplace : l ++ [last] = ["dev"] ++ ["null"] :=
      eq_nullDevice (node?_of_placeAt hend.symm).1
    exact List.singleton_inj.1 (List.append_inj' hplace rfl).2

/-- A path goes on from a directory. -/
theorem walkFrom_of_join {t : Tree} {directory name : String} {l : Location} {p : Place}
    (hl : t.directoryAt? directory = some l) (hname : Path.isAbsolute name = false)
    (h : t.walk (Path.join directory name) = .ok p) :
    t.walkFrom l (Path.pieces name) = .ok p := by
  by_cases hdirectory : directory = ""
  · rw [directoryAt?, if_pos hdirectory] at hl
    rw [hdirectory, Path.join_empty] at h
    have hwalk := (walk_eq_ok_iff.1 h).2.2.2
    rwa [t.start_relative hname, Option.some.inj hl] at hwalk
  · obtain ⟨m, hm, hp⟩ := walk_join hdirectory hname h
    rw [directoryAt?, if_neg hdirectory, hm] at hl
    rwa [← Option.some.inj hl]

theorem Walks.node?_of_directory {t : Tree} {here l : Location} {steps : List String} {p : Place}
    (h : t.Walks here steps p) (hp : p = .directory l) (hhere : t.node? here = some .directory) :
    t.node? l = some .directory := by
  induction h with
  | done =>
    cases hp
    exact hhere
  | stay _ _ ih => exact ih hp hhere
  | up _ ih => exact ih hp (directory_dropLast hhere)
  | down _ hnode _ ih => exact ih hp hnode
  | stop =>
    obtain ⟨hnode, hl⟩ := node?_of_placeAt hp
    rwa [hl l rfl] at hnode

theorem node?_of_directoryAt? {t : Tree} {directory : String} {l : Location}
    (h : t.directoryAt? directory = some l) : t.node? l = some .directory := by
  rw [directoryAt?] at h
  split at h
  · cases h
    exact t.here_directory
  split at h
  case h_1 hw =>
    cases h
    have hwalk := (walk_eq_ok_iff.1 hw).2.2.2
    exact (walkFrom_eq_ok_iff.1 hwalk).node?_of_directory rfl (t.node?_start directory)
  case h_2 => cases h

/-- Legal names lead straight down. -/
theorem Walks.eq_placeAt {t : Tree} {here : Location} {names : List String} {p : Place}
    (h : t.Walks here names p) (hhere : t.node? here = some .directory)
    (hnames : ∀ name ∈ names, isLegalName name = true) : p = t.placeAt (here ++ names) := by
  induction h with
  | done here => rw [List.append_nil, placeAt, hhere]
  | @stay here name rest _ hstay =>
    have hlegal := hnames name List.mem_cons_self
    simp [isLegalName, hstay] at hlegal
  | up => exact absurd (hnames ".." List.mem_cons_self) (by decide)
  | down _ hnode _ ih =>
    rw [List.forall_mem_cons] at hnames
    rw [ih hnode hnames.2, List.append_assoc]
    rfl
  | stop => rfl

theorem slash_not_mem_of_legal {name : String} (h : isLegalName name = true) :
    Path.slash ∉ name.toList := by
  simp only [isLegalName, Bool.and_eq_true, Bool.not_eq_true'] at h
  simpa using h.1.1.2

theorem isName_of_legal {name : String} (h : isLegalName name = true) : Path.IsName name := by
  refine ⟨?_, slash_not_mem_of_legal h⟩
  rintro rfl
  exact absurd h (by decide)

theorem isAbsolute_ofPieces {names : List String}
    (h : ∀ name ∈ names, isLegalName name = true) :
    Path.isAbsolute (Path.ofPieces names) = false :=
  Path.isAbsolute_ofPieces fun name hname => isName_of_legal (h name hname)

/-- A file that is found below a directory stands below it. -/
theorem location_of_join {t : Tree} {directory : String} {l m : Location} {names : List String}
    {content : Octets} (hl : t.directoryAt? directory = some l) (hne : names ≠ [])
    (hnames : ∀ name ∈ names, isLegalName name = true)
    (h : t.walk (Path.join directory (Path.ofPieces names)) = .ok (.file m content)) :
    m = l ++ names := by
  have hwalk := walkFrom_of_join hl (isAbsolute_ofPieces hnames) h
  rw [Path.pieces_ofPieces hne fun name hname => slash_not_mem_of_legal (hnames name hname)] at hwalk
  have hplace := (walkFrom_eq_ok_iff.1 hwalk).eq_placeAt (node?_of_directoryAt? hl) hnames
  exact ((node?_of_placeAt hplace.symm).2 m rfl).symm

/-! ## Listings -/

theorem mem_namesIn {t : Tree} {l : Location} {name : String} {n : Node} :
    (name, n) ∈ t.namesIn l ↔ t.node? (l ++ [name]) = some n := by
  rw [namesIn, List.mem_filterMap]
  constructor
  · rintro ⟨⟨m, n'⟩, hentry, heq⟩
    split at heq
    case isTrue hm =>
      obtain ⟨last, hlast, hpair⟩ := Option.map_eq_some_iff.1 heq
      obtain ⟨rfl, rfl⟩ := Prod.mk.inj hpair
      rw [← hm, List.dropLast_append_getLast? _ hlast]
      exact (mem_entries.1 hentry).2
    case isFalse => cases heq
  · intro hnode
    refine ⟨(l ++ [name], n), mem_entries.2 ⟨by simp, hnode⟩, ?_⟩
    simp

/-- The names in a directory are those that something stands under. -/
theorem mem_list {t : Tree} {directoriesOnly : Bool} {directory name : String} :
    name ∈ t.list directoriesOnly directory ↔ ∃ l n, t.directoryAt? directory = some l ∧
      t.node? (l ++ [name]) = some n ∧ (directoriesOnly = true → n = .directory) := by
  rw [list]
  cases t.directoryAt? directory with
  | none => simp
  | some l =>
    simp only [List.mem_map, List.mem_filter, Bool.or_eq_true, Bool.not_eq_true', Option.some.injEq,
      beq_iff_eq]
    constructor
    · rintro ⟨⟨_, n⟩, ⟨hmem, hdir⟩, rfl⟩
      exact ⟨l, n, rfl, mem_namesIn.1 hmem, fun h => hdir.resolve_left (by simp [h])⟩
    · rintro ⟨_, n, rfl, hnode, hdir⟩
      refine ⟨(name, n), ⟨mem_namesIn.2 hnode, ?_⟩, rfl⟩
      cases directoriesOnly with
      | true => exact .inr (hdir rfl)
      | false => exact .inl rfl

theorem mem_below {t : Tree} {l names : Location} {n : Node} :
    (names, n) ∈ t.below l ↔ names ≠ [] ∧ t.node? (l ++ names) = some n := by
  rw [below, List.mem_filterMap]
  constructor
  · rintro ⟨⟨m, n'⟩, hentry, heq⟩
    split at heq
    case isTrue hm =>
      simp only [Bool.and_eq_true, decide_eq_true_eq, List.isPrefixOf_iff_prefix] at hm
      obtain ⟨⟨more, rfl⟩, hne⟩ := hm
      obtain ⟨rfl, rfl⟩ := Prod.mk.inj (Option.some.inj heq)
      rw [List.drop_left]
      exact ⟨fun hnil => hne (by simp [hnil]), (mem_entries.1 hentry).2⟩
    case isFalse => cases heq
  · rintro ⟨hne, hnode⟩
    refine ⟨(l ++ names, n), mem_entries.2 ⟨by simp [hne], hnode⟩, ?_⟩
    simp [hne]

/-- The paths below a directory are those that something stands at and that hold no hidden name. -/
theorem mem_descend {t : Tree} {directoriesOnly : Bool} {directory path : String} :
    path ∈ t.descend directoriesOnly directory ↔ ∃ l names n,
      t.directoryAt? directory = some l ∧ names ≠ [] ∧ t.node? (l ++ names) = some n ∧
      (directoriesOnly = true → n = .directory) ∧
      (∀ name ∈ names, Wildcard.isHidden name = false) ∧ path = Path.ofPieces names := by
  rw [descend]
  cases t.directoryAt? directory with
  | none => simp
  | some l =>
    simp only [List.mem_map, List.mem_filter, Bool.and_eq_true, Bool.or_eq_true,
      Bool.not_eq_true', Option.some.injEq, beq_iff_eq, List.all_eq_true]
    constructor
    · rintro ⟨⟨names, n⟩, ⟨hmem, hdir, hshown⟩, rfl⟩
      obtain ⟨hne, hnode⟩ := mem_below.1 hmem
      exact ⟨l, names, n, rfl, hne, hnode, fun h => hdir.resolve_left (by simp [h]), hshown, rfl⟩
    · rintro ⟨_, names, n, rfl, hne, hnode, hdir, hshown, rfl⟩
      refine ⟨(names, n), ⟨mem_below.2 ⟨hne, hnode⟩, ?_, hshown⟩, rfl⟩
      cases directoriesOnly with
      | true => exact .inr (hdir rfl)
      | false => exact .inl rfl

end Tree

end Restyle
