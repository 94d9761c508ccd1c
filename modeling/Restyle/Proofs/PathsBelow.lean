import Mathlib.Data.List.Induction
import Restyle.Proofs.FoundAgain
import Restyle.Proofs.Unusable

/-!
# Paths below a directory

The names of an entry, joined one by one to the path of a directory, lead down to the entry as long as
the whole path is not too long (`Tree.walk_join_names`, `Tree.directoryAt?_join_names`), and what a
joined path leads to stands below the directory (`Tree.location_of_join`, `Tree.directoryAt?_of_join`).
Slashes at the end of a directory do not count (`Tree.directoryAt?_base`), nor does an
empty name (`Tree.directoryAt?_of_join_empty`).
-/

namespace Restyle

open Text

namespace Tree

variable {t : Tree} {directory : String} {l m names : Location} {n : Node}

/-! ## Straight down -/

theorem isDown_of_legal {name : String} (h : isLegalName name = true) : IsDown name := by
  simp only [isLegalName, Bool.and_eq_true, bne_iff_ne, decide_eq_true_eq] at h
  exact ⟨h.1.1.1.1, h.1.1.1.2, h.2⟩

/-- Above everything that stands anywhere there are directories. -/
theorem directory_above (hne : names ≠ []) (h : t.node? (l ++ names) = some n) :
    t.node? l = some .directory := by
  induction names using List.reverseRecOn generalizing n with
  | nil => exact absurd rfl hne
  | append_singleton names name ih =>
    have hdir := directory_of_node (by simp) h
    rw [← List.append_assoc, List.dropLast_concat] at hdir
    by_cases hnames : names = []
    · rwa [hnames, List.append_nil] at hdir
    · exact ih hnames hdir

/-- The names of an entry lead down to it. -/
theorem walks_names (hl : t.node? l = some .directory) (h : t.node? (l ++ names) = some n) :
    t.Walks l names (t.placeAt (l ++ names)) := by
  induction names generalizing l with
  | nil =>
    rw [List.append_nil, placeAt, hl]
    exact .done l
  | cons name rest ih =>
    have hdown : IsDown name := isDown_of_legal (legal_of_node h name (by simp))
    rw [← List.singleton_append, ← List.append_assoc] at h ⊢
    by_cases hnode : t.node? (l ++ [name]) = some .directory
    · exact .down hdown hnode (ih hnode h)
    · -- Nothing stands below what is no directory.
      obtain rfl : rest = [] := by
        by_contra hrest
        exact hnode (directory_above hrest h)
      rw [List.append_nil (l ++ [name])]
      exact .stop hdown hnode

theorem ofPieces_ne_empty (hne : names ≠ []) (h : ∀ name ∈ names, isLegalName name = true) :
    Path.ofPieces names ≠ "" :=
  (Path.ofPieces_ends hne fun name hname => isName_of_legal (h name hname)).1

/-! ## Directories and what stands below them -/

theorem ne_empty_of_walk {p : Place} (h : t.walk directory = .ok p) : directory ≠ "" := by
  rintro rfl
  cases h

theorem walk_of_directoryAt? (hl : t.directoryAt? directory = some l) (hne : directory ≠ "") :
    t.walk directory = .ok (.directory l) := by
  rw [directoryAt?, if_neg hne] at hl
  split at hl
  case h_1 hw => rw [hw, Option.some.inj hl]
  case h_2 => cases hl

theorem directoryAt?_of_walk (h : t.walk directory = .ok (.directory l)) :
    t.directoryAt? directory = some l := by
  have hne := ne_empty_of_walk h
  rw [directoryAt?, if_neg hne, h]

/-- The pieces of a directory lead to it, also without an empty one at the end. -/
theorem walkFrom_front {front : List String} {here : Location}
    (h : t.walkFrom here (front ++ [""]) = .ok (.directory l)) :
    t.walkFrom here front = .ok (.directory l) := by
  obtain ⟨m, hfront, hlast⟩ := (walkFrom_append (by simp) _).1 h
  obtain rfl : m = l := by
    cases hlast
    rfl
  exact hfront

theorem walk_of_append_slash {path : String} (hne : path ≠ "")
    (h : t.walk (path ++ "/") = .ok (.directory l)) : t.walk path = .ok (.directory l) := by
  obtain ⟨hnul, -, hsize, hwalk⟩ := walk_eq_ok_iff.1 h
  rw [Path.hasNul_append, Bool.or_eq_false_iff] at hnul
  rw [Path.size_append] at hsize
  have hpieces := Path.pieces_append_slash path ""
  rw [String.append_empty] at hpieces
  rw [hpieces, start, Path.isAbsolute_append hne, ← start] at hwalk
  exact walk_eq_ok_iff.2
    ⟨hnul.1, hne, Nat.lt_of_le_of_lt (Nat.le_add_right _ _) hsize, walkFrom_front hwalk⟩

/-- Slashes at the end of a directory do not count. -/
theorem directoryAt?_base (h : t.walk directory = .ok (.directory l)) :
    t.directoryAt? (Path.base directory) = some l := by
  have hslashes (k : Nat) {path : String} (hne : path ≠ "")
      (h : t.walk (path ++ String.ofList (List.replicate k Path.slash)) = .ok (.directory l)) :
      t.walk path = .ok (.directory l) := by
    induction k with
    | zero => simpa using h
    | succ k ih =>
      have htext : path ++ String.ofList (List.replicate (k + 1) Path.slash) =
          path ++ String.ofList (List.replicate k Path.slash) ++ "/" := by
        rw [← String.toList_inj]
        simp [String.toList_append, List.replicate_succ', Path.slash]
      rw [htext] at h
      exact ih (walk_of_append_slash (fun hempty => hne (String.append_eq_empty_iff.1 hempty).1) h)
  unfold Path.base
  split
  · exact directoryAt?_of_walk h
  · rename_i hstem
    obtain ⟨k, hk⟩ := Path.exists_append_slashes directory
    rw [hk] at h
    exact directoryAt?_of_walk (hslashes k hstem h)

/-- An absolute path starts at the root, and any other one where work is done. -/
example :
    let t := ((Tree.empty.place ["a"] .directory).place ["a", "b"] .directory).enter ["a", "b"]
    t.directoryAt? (Path.base "//a//") = some ["a"] ∧ t.directoryAt? (Path.base "../") = some ["a"] ∧
    t.directoryAt? (Path.base "/") = some [] ∧ t.directoryAt? "../../.." = some [] ∧
    t.directoryAt? "" = some ["a", "b"] := by
  decide +kernel

/-- From a directory a joined path goes on with its second part, unless the whole is too long. -/
theorem walk_join_of_directory {name : String} {p : Place} (hl : t.directoryAt? directory = some l)
    (hne : directory ≠ "") (hrelative : Path.isAbsolute name = false)
    (hnul : Path.hasNul name = false)
    (hsize : Path.size (Path.join directory name) < Path.pathLimit)
    (hwalk : t.walkFrom l (Path.pieces name) = .ok p) : t.walk (Path.join directory name) = .ok p := by
  obtain ⟨hdirNul, -, -, hdirectory⟩ := walk_eq_ok_iff.1 (walk_of_directoryAt? hl hne)
  obtain ⟨start, -, hstart, hjoin⟩ := Path.exists_join directory hne
  have hslash : Path.hasNul "/" = false := by decide
  refine walk_eq_ok_iff.2 ⟨?_, Path.join_ne_empty hne hrelative, hsize, ?_⟩
  · rw [hjoin name hrelative, Path.hasNul_append, hnul, Bool.or_false]
    rcases hstart with rfl | rfl
    · exact hdirNul
    · rw [Path.hasNul_append, hdirNul, hslash, Bool.or_false]
  · rw [t.start_join hne hrelative, Path.pieces_join hne hrelative,
      walkFrom_append (Path.pieces_ne_nil name)]
    refine ⟨l, ?_, hwalk⟩
    rcases Path.pieces_cases directory with h | h
    · rwa [h] at hdirectory
    · rw [h] at hdirectory
      exact walkFrom_front hdirectory

/-- What stands below a directory is found by its names, unless the path is too long. -/
theorem walk_join_names (hl : t.directoryAt? directory = some l) (hdirectory : directory ≠ "")
    (hne : names ≠ []) (hnode : t.node? (l ++ names) = some n)
    (hsize : Path.size (Path.join directory (Path.ofPieces names)) < Path.pathLimit) :
    t.walk (Path.join directory (Path.ofPieces names)) = .ok (t.placeAt (l ++ names)) := by
  have hlegal : ∀ name ∈ names, isLegalName name = true :=
    fun name hname => legal_of_node hnode name (List.mem_append_right l hname)
  have hnul : Path.hasNul (Path.ofPieces names) = false := by
    rw [Path.hasNul_ofPieces, List.any_eq_false]
    intro name hname
    have := hlegal name hname
    simp only [isLegalName, Bool.and_eq_true, Bool.not_eq_true'] at this
    simp [this.1.2]
  refine walk_join_of_directory hl hdirectory (isAbsolute_ofPieces hlegal) hnul hsize ?_
  rw [Path.pieces_ofPieces hne fun name hname => slash_not_mem_of_legal (hlegal name hname)]
  exact walkFrom_of_walks (walks_names (directory_above hne hnode) hnode)

/-- A directory below another one is found by its names, and the directory itself by none. -/
theorem directoryAt?_join_names (hl : t.directoryAt? directory = some l) (hdirectory : directory ≠ "")
    (hnode : t.node? (l ++ names) = some .directory)
    (hsize : Path.size (Path.join directory (Path.ofPieces names)) < Path.pathLimit) :
    t.directoryAt? (Path.join directory (Path.ofPieces names)) = some (l ++ names) := by
  by_cases hnil : names = []
  · rw [hnil] at hsize ⊢
    rw [List.append_nil]
    exact directoryAt?_of_walk
      (walk_join_of_directory hl hdirectory (by decide) (by decide) hsize rfl)
  · have hwalk := walk_join_names hl hdirectory hnil hnode hsize
    rw [placeAt, hnode] at hwalk
    exact directoryAt?_of_walk hwalk

/-- A directory that is found below another one stands below it. -/
theorem directoryAt?_of_join (hl : t.directoryAt? directory = some l)
    (hnames : ∀ name ∈ names, isLegalName name = true)
    (h : t.directoryAt? (Path.join directory (Path.ofPieces names)) = some m) :
    m = l ++ names := by
  have hrelative := isAbsolute_ofPieces hnames
  by_cases hnil : names = []
  · subst hnil
    by_cases hempty : directory = ""
    · rw [hempty] at hl h
      exact (Option.some.inj h).symm.trans ((Option.some.inj hl).trans (List.append_nil l).symm)
    · have hne := Path.join_ne_empty hempty hrelative
      have hwalk := walkFrom_of_join hl hrelative (walk_of_directoryAt? h hne)
      obtain rfl : l = m := by
        cases hwalk
        rfl
      rw [List.append_nil]
  · have hpieces := Path.pieces_ofPieces hnil fun name hname =>
      slash_not_mem_of_legal (hnames name hname)
    have hne : Path.join directory (Path.ofPieces names) ≠ "" := by
      by_cases hempty : directory = ""
      · rw [hempty, Path.join_empty]
        exact ofPieces_ne_empty hnil hnames
      · exact Path.join_ne_empty hempty hrelative
    have hwalk := walkFrom_of_join hl hrelative (walk_of_directoryAt? h hne)
    rw [hpieces] at hwalk
    have hplace := (walkFrom_eq_ok_iff.1 hwalk).eq_placeAt (node?_of_directoryAt? hl) hnames
    exact ((node?_of_placeAt hplace.symm).2 _ rfl).symm

/-! ## Paths with an empty name at the end -/

/-- An empty name leads to the directory itself. -/
theorem walk_of_join_empty {p : Place} (hne : directory ≠ "")
    (h : t.walk (Path.join directory "") = .ok p) :
    t.walk directory = .ok p ∧ ∃ l, p = .directory l := by
  obtain ⟨l, hl, hwalk⟩ := walk_join hne (by decide) h
  obtain rfl : Place.directory l = p := Except.ok.inj hwalk
  exact ⟨hl, l, rfl⟩

theorem not_isFile_join_empty (t : Tree) (directory : String) :
    t.isFile (Path.join directory "") = false := by
  rw [Bool.eq_false_iff]
  intro hfile
  by_cases hne : directory = ""
  · rw [hne, Path.join_empty] at hfile
    cases hfile
  · obtain ⟨l, content, hl, hnode⟩ := isFile_iff.1 hfile
    have hw := walk_of_location hl
    rw [placeAt, hnode] at hw
    obtain ⟨-, m, hm⟩ := walk_of_join_empty hne hw
    cases hm

theorem directoryAt?_of_join_empty (h : t.directoryAt? (Path.join directory "") = some m) :
    t.directoryAt? directory = some m := by
  by_cases hne : directory = ""
  · rw [hne, Path.join_empty] at h
    rwa [hne]
  · have hjoined : Path.join directory "" ≠ "" := Path.join_ne_empty hne (by decide)
    exact directoryAt?_of_walk (walk_of_join_empty hne (walk_of_directoryAt? h hjoined)).1

end Tree

end Restyle
