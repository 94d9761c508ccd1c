import Mathlib.Data.List.Basic
import Mathlib.Data.List.Induction
import Mathlib.Data.List.TakeWhile
import Restyle.Path
import Restyle.Proofs.Lines

/-!
# The texts of paths

A path and its pieces tell each other (`Path.ofPieces_pieces`, `Path.pieces_ofPieces`). A name that is
joined to a directory puts its pieces behind the stem of the directory (`Path.pieces_join`), so names can
be joined in any grouping (`Path.join_join`) and different names make different paths
(`Path.join_injective`, `Path.ofPieces_injective`).
-/

namespace Restyle

open Text

namespace Path

/-! ## Pieces -/

theorem pieces_ne_nil (path : String) : pieces path ≠ [] := by
  rw [pieces, splitString, Ne, List.map_eq_nil_iff]
  exact splitOn_ne_nil slash path.toList

theorem slash_not_mem_of_mem_pieces {path name : String} (h : name ∈ pieces path) :
    slash ∉ name.toList := by
  obtain ⟨piece, hpiece, rfl⟩ := List.mem_map.1 h
  rw [String.toList_ofList]
  exact fun hslash => (mem_of_mem_splitOn hpiece slash hslash).2 rfl

/-- A text without slashes is a single piece. -/
theorem pieces_of_slash_not_mem {name : String} (h : slash ∉ name.toList) :
    pieces name = [name] := by
  rw [pieces, splitString, splitOn_of_not_mem h, List.map_singleton, String.ofList_toList]

theorem pieces_append_slash (front rest : String) :
    pieces (front ++ "/" ++ rest) = pieces front ++ pieces rest := by
  have htext : (front ++ "/" ++ rest).toList = front.toList ++ slash :: rest.toList := by
    simp [String.toList_append, slash]
  rw [pieces, splitString, htext, splitOn_append_sep, List.map_append]
  rfl

theorem ofPieces_singleton (name : String) : ofPieces [name] = name := by
  simp [ofPieces]

theorem ofPieces_cons_cons (name next : String) (names : List String) :
    ofPieces (name :: next :: names) = name ++ "/" ++ ofPieces (next :: names) := by
  simp [ofPieces, String.intercalate_cons_cons]

theorem ofPieces_append {front back : List String} (hfront : front ≠ []) (hback : back ≠ []) :
    ofPieces (front ++ back) = ofPieces front ++ "/" ++ ofPieces back := by
  induction front with
  | nil => exact absurd rfl hfront
  | cons name front ih =>
    cases front with
    | nil =>
      obtain ⟨next, back, rfl⟩ := List.exists_cons_of_ne_nil hback
      rw [List.singleton_append, ofPieces_cons_cons, ofPieces_singleton]
    | cons next front =>
      rw [List.cons_append, List.cons_append, ofPieces_cons_cons, ← List.cons_append,
        ih (by simp), ofPieces_cons_cons]
      simp only [String.append_assoc]

/-- A path ends in its last name. -/
theorem exists_ofPieces_concat (front : List String) (last : String) :
    ∃ before, ofPieces (front ++ [last]) = before ++ last := by
  cases front with
  | nil => exact ⟨"", by rw [List.nil_append, ofPieces_singleton, String.empty_append]⟩
  | cons first front =>
    exact ⟨ofPieces (first :: front) ++ "/", by
      rw [ofPieces_append (by simp) (by simp), ofPieces_singleton]⟩

/-- Names without slashes are the pieces of their path. -/
theorem pieces_ofPieces {names : List String} (hne : names ≠ [])
    (h : ∀ name ∈ names, slash ∉ name.toList) : pieces (ofPieces names) = names := by
  induction names with
  | nil => exact absurd rfl hne
  | cons name names ih =>
    rw [List.forall_mem_cons] at h
    cases names with
    | nil => rw [ofPieces_singleton, pieces_of_slash_not_mem h.1]
    | cons next names =>
      rw [ofPieces_cons_cons, pieces_append_slash, pieces_of_slash_not_mem h.1, ih (by simp) h.2]
      rfl

/-- Different names make different paths. -/
theorem ofPieces_injective {names names' : List String} (hne : names ≠ []) (hne' : names' ≠ [])
    (h : ∀ name ∈ names, slash ∉ name.toList) (h' : ∀ name ∈ names', slash ∉ name.toList)
    (heq : ofPieces names = ofPieces names') : names = names' := by
  rw [← pieces_ofPieces hne h, ← pieces_ofPieces hne' h', heq]

/-- The pieces of a path make up the path. -/
theorem ofPieces_pieces (path : String) : ofPieces (pieces path) = path := by
  have hjoin (parts : List (List Char)) :
      ofPieces (parts.map String.ofList) = String.ofList (joinWith slash parts) := by
    induction parts with
    | nil => rfl
    | cons part parts ih =>
      cases parts with
      | nil => rw [List.map_singleton, ofPieces_singleton, joinWith]
      | cons next parts =>
        rw [List.map_cons] at ih
        rw [List.map_cons, List.map_cons, ofPieces, String.intercalate_cons_cons, ← ofPieces, ih,
          joinWith, ← String.toList_inj]
        simp [String.toList_append, slash]
  rw [pieces, splitString, hjoin, joinWith_splitOn, String.ofList_toList]

/-! ## Slashes at the end -/

/-- Whether a path ends in a slash. -/
def EndsInSlash (path : String) : Prop :=
  path.toList.getLast? = some slash

instance : DecidablePred EndsInSlash := fun path =>
  inferInstanceAs (Decidable (path.toList.getLast? = some slash))

theorem endsInSlash_append_slash (path : String) : EndsInSlash (path ++ "/") := by
  simp [EndsInSlash, String.toList_append, slash]

theorem endsInSlash_append {front back : String} (hback : back ≠ "") :
    EndsInSlash (front ++ back) ↔ EndsInSlash back := by
  have hlist : back.toList ≠ [] := fun h => hback (String.toList_eq_nil_iff.1 h)
  have hlast := List.getLast?_eq_some_getLast hlist
  rw [EndsInSlash, EndsInSlash, String.toList_append, List.getLast?_append, hlast, Option.some_or]

theorem not_endsInSlash_of_not_mem {name : String} (h : slash ∉ name.toList) :
    ¬ EndsInSlash name :=
  fun hend => h (List.mem_of_getLast? hend)

theorem withoutFinalSlashes_append_slash (path : String) :
    withoutFinalSlashes (path ++ "/") = withoutFinalSlashes path := by
  simp [withoutFinalSlashes, String.toList_append, slash]

theorem withoutFinalSlashes_of_not_endsInSlash {path : String} (h : ¬ EndsInSlash path) :
    withoutFinalSlashes path = path := by
  have hstay : path.toList.reverse.dropWhile (· == slash) = path.toList.reverse := by
    cases hlist : path.toList.reverse with
    | nil => rfl
    | cons c rest =>
      rw [EndsInSlash, ← List.head?_reverse, hlist] at h
      exact List.dropWhile_cons_of_neg fun hc => h (congrArg some (beq_iff_eq.1 hc))
  rw [withoutFinalSlashes, hstay, List.reverse_reverse, String.ofList_toList]

/-- A path is its part without the final slashes, with these slashes behind it. -/
theorem exists_append_slashes (path : String) : ∃ k,
    path = withoutFinalSlashes path ++ String.ofList (List.replicate k slash) := by
  let slashes := path.toList.reverse.takeWhile (· == slash)
  let kept := path.toList.reverse.dropWhile (· == slash)
  have hslashes : ∀ c ∈ slashes, c = slash := by
    intro c hc
    simpa using List.mem_takeWhile_imp hc
  refine ⟨slashes.length, ?_⟩
  rw [← String.toList_inj, String.toList_append, withoutFinalSlashes, String.toList_ofList,
    String.toList_ofList]
  calc path.toList
      = (slashes ++ kept).reverse := by
        rw [List.takeWhile_append_dropWhile, List.reverse_reverse]
    _ = kept.reverse ++ slashes.reverse := List.reverse_append
    _ = kept.reverse ++ List.replicate slashes.length slash := by
        rw [List.eq_replicate_of_mem hslashes, List.reverse_replicate, List.length_replicate]

/-- The path of a directory as it stands before the names in it: without slashes at its end, unless it
has nothing else. -/
def base (path : String) : String :=
  if withoutFinalSlashes path = "" then path else withoutFinalSlashes path

theorem base_ne_empty {path : String} (hne : path ≠ "") : base path ≠ "" := by
  unfold base
  split
  · exact hne
  · assumption

theorem base_of_not_endsInSlash {path : String} (h : ¬ EndsInSlash path) : base path = path := by
  rw [base, withoutFinalSlashes_of_not_endsInSlash h, ite_self]

/-! ## Joining -/

theorem isAbsolute_append {front : String} (hfront : front ≠ "") (back : String) :
    isAbsolute (front ++ back) = isAbsolute front := by
  rw [isAbsolute, isAbsolute, String.toList_append]
  cases hlist : front.toList with
  | nil => exact absurd (String.toList_eq_nil_iff.1 hlist) hfront
  | cons c cs => rfl

theorem isAbsolute_of_slash_not_mem {name : String} (h : slash ∉ name.toList) :
    isAbsolute name = false := by
  rw [isAbsolute]
  cases hlist : name.toList with
  | nil => rfl
  | cons c cs =>
    rw [hlist, List.mem_cons, not_or] at h
    simpa using Ne.symm h.1

theorem join_empty (name : String) : join "" name = name := by
  simp [join]

theorem join_of_endsInSlash {directory name : String} (hdirectory : directory ≠ "")
    (hname : isAbsolute name = false) (h : EndsInSlash directory) :
    join directory name = directory ++ name := by
  have hcond : ¬ (isAbsolute name || decide (directory = "")) = true := by
    simp [hname, hdirectory]
  have hlast : (directory.toList.getLast? == some slash) = true := beq_iff_eq.2 h
  rw [join, if_neg hcond, if_pos hlast]

theorem join_of_not_endsInSlash {directory name : String} (hdirectory : directory ≠ "")
    (hname : isAbsolute name = false) (h : ¬ EndsInSlash directory) :
    join directory name = directory ++ "/" ++ name := by
  have hcond : ¬ (isAbsolute name || decide (directory = "")) = true := by
    simp [hname, hdirectory]
  have hlast : ¬ (directory.toList.getLast? == some slash) = true := fun hlast =>
    h (beq_iff_eq.1 hlast)
  rw [join, if_neg hcond, if_neg hlast]

/-- A joined path is the directory with one slash at its end, and the name. -/
theorem exists_join (directory : String) (hdirectory : directory ≠ "") : ∃ front : String,
    EndsInSlash front ∧ (front = directory ∨ front = directory ++ "/") ∧
    ∀ name, isAbsolute name = false → join directory name = front ++ name := by
  by_cases h : EndsInSlash directory
  · exact ⟨directory, h, .inl rfl, fun name hname => join_of_endsInSlash hdirectory hname h⟩
  · exact ⟨directory ++ "/", endsInSlash_append_slash directory, .inr rfl,
      fun name hname => join_of_not_endsInSlash hdirectory hname h⟩

/-- What a directory begins with, a joined path begins with. -/
theorem exists_join_eq (directory : String) {name : String} (hname : isAbsolute name = false) :
    ∃ rest, join directory name = directory ++ rest := by
  by_cases hdirectory : directory = ""
  · exact ⟨name, by rw [hdirectory, join_empty, String.empty_append]⟩
  obtain ⟨front, -, hfront, hjoin⟩ := exists_join directory hdirectory
  rcases hfront with rfl | rfl
  · exact ⟨name, hjoin name hname⟩
  · exact ⟨"/" ++ name, by rw [hjoin name hname, String.append_assoc]⟩

theorem isAbsolute_join {directory name : String} (hdirectory : directory ≠ "")
    (hname : isAbsolute name = false) :
    isAbsolute (join directory name) = isAbsolute directory := by
  obtain ⟨rest, hrest⟩ := exists_join_eq directory hname
  rw [hrest, isAbsolute_append hdirectory]

theorem join_ne_empty {directory name : String} (hdirectory : directory ≠ "")
    (hname : isAbsolute name = false) : join directory name ≠ "" := by
  obtain ⟨rest, hrest⟩ := exists_join_eq directory hname
  rw [hrest]
  exact fun hempty => hdirectory (String.append_eq_empty_iff.1 hempty).1

/-- Relative names can be joined in any grouping. -/
theorem join_join (directory : String) {name next : String} (hname : isAbsolute name = false)
    (hnext : isAbsolute next = false) :
    join (join directory name) next = join directory (join name next) := by
  by_cases hdirectory : directory = ""
  · rw [hdirectory, join_empty, join_empty]
  obtain ⟨front, hend, hfront, hjoin⟩ := exists_join directory hdirectory
  have hne : front ≠ "" := by
    rintro rfl
    cases hend
  by_cases hempty : name = ""
  · rw [hjoin name hname, hempty, String.append_empty, join_of_endsInSlash hne hnext hend,
      join_empty, hjoin next hnext]
  · have hne' : front ++ name ≠ "" := fun h => hne (String.append_eq_empty_iff.1 h).1
    have hrelative : isAbsolute (join name next) = false := by
      rw [isAbsolute_join hempty hnext, hname]
    rw [hjoin name hname, hjoin _ hrelative]
    by_cases hslash : EndsInSlash name
    · rw [join_of_endsInSlash hne' hnext ((endsInSlash_append hempty).2 hslash),
        join_of_endsInSlash hempty hnext hslash, String.append_assoc]
    · rw [join_of_not_endsInSlash hne' hnext fun h => hslash ((endsInSlash_append hempty).1 h),
        join_of_not_endsInSlash hempty hnext hslash]
      simp only [String.append_assoc]

/-- Different relative names make different paths. -/
theorem join_injective (directory : String) {name name' : String} (h : isAbsolute name = false)
    (h' : isAbsolute name' = false) (heq : join directory name = join directory name') :
    name = name' := by
  by_cases hne : directory = ""
  · rwa [hne, join_empty, join_empty] at heq
  · obtain ⟨front, -, -, hjoin⟩ := exists_join directory hne
    rw [hjoin name h, hjoin name' h', ← String.toList_inj, String.toList_append,
      String.toList_append] at heq
    exact String.toList_inj.1 (List.append_cancel_left heq)

/-! ## Names -/

/-- A text that stands as one name between slashes. -/
structure IsName (name : String) : Prop where
  ne_empty : name ≠ ""
  slash_not_mem : slash ∉ name.toList

/-- A path of names is one itself, and does not end in a slash. -/
theorem ofPieces_ends {names : List String} (hne : names ≠ []) (h : ∀ name ∈ names, IsName name) :
    ofPieces names ≠ "" ∧ ¬ EndsInSlash (ofPieces names) := by
  obtain ⟨front, last, rfl⟩ := names.eq_nil_or_concat'.resolve_left hne
  have hlast := h last (by simp)
  obtain ⟨before, hbefore⟩ := exists_ofPieces_concat front last
  rw [hbefore, endsInSlash_append hlast.ne_empty]
  exact ⟨fun hempty => hlast.ne_empty (String.append_eq_empty_iff.1 hempty).2,
    not_endsInSlash_of_not_mem hlast.slash_not_mem⟩

/-- Different names make different paths. -/
theorem eq_of_ofPieces {names names' : List String} (h : ∀ name ∈ names, IsName name)
    (h' : ∀ name ∈ names', IsName name) (heq : ofPieces names = ofPieces names') :
    names = names' := by
  by_cases hne : names = []
  · by_contra hdiffer
    subst hne
    exact (ofPieces_ends (Ne.symm hdiffer) h').1 heq.symm
  by_cases hne' : names' = []
  · subst hne'
    exact absurd heq (ofPieces_ends hne h).1
  exact ofPieces_injective hne hne' (fun name hname => (h name hname).slash_not_mem)
    (fun name hname => (h' name hname).slash_not_mem) heq

theorem isAbsolute_ofPieces {names : List String} (h : ∀ name ∈ names, IsName name) :
    isAbsolute (ofPieces names) = false := by
  cases names with
  | nil => rfl
  | cons name names =>
    have hname := h name List.mem_cons_self
    have hrelative := isAbsolute_of_slash_not_mem hname.slash_not_mem
    cases names with
    | nil => rwa [ofPieces_singleton]
    | cons next names => rwa [ofPieces_cons_cons, String.append_assoc, isAbsolute_append hname.ne_empty]

/-- Names are joined as they stand in a path. -/
theorem join_ofPieces {names more : List String} (hnames : ∀ name ∈ names, IsName name)
    (hmore : ∀ name ∈ more, IsName name) (hne : more ≠ []) :
    join (ofPieces names) (ofPieces more) = ofPieces (names ++ more) := by
  by_cases hnil : names = []
  · subst hnil
    exact join_empty (ofPieces more)
  obtain ⟨hempty, hend⟩ := ofPieces_ends hnil hnames
  rw [join_of_not_endsInSlash hempty (isAbsolute_ofPieces hmore) hend, ofPieces_append hnil hne]

/-! ## The stem of a path -/

/-- The pieces of a path that other names are put behind: an empty one at the end does not count. -/
def stem (path : String) : List String :=
  if (pieces path).getLast? = some "" then (pieces path).dropLast else pieces path

theorem pieces_cases (path : String) :
    pieces path = stem path ∨ pieces path = stem path ++ [""] := by
  unfold stem
  split
  · rename_i hlast
    exact .inr (List.dropLast_append_getLast? _ hlast).symm
  · exact .inl rfl

theorem endsInSlash_of_last {path : String} (hne : path ≠ "")
    (h : (pieces path).getLast? = some "") : EndsInSlash path := by
  have hpieces := List.dropLast_append_getLast? _ h
  have htext := ofPieces_pieces path
  rw [← hpieces] at htext
  by_cases hfront : (pieces path).dropLast = []
  · rw [hfront, List.nil_append, ofPieces_singleton] at htext
    exact absurd htext.symm hne
  · rw [ofPieces_append hfront (by simp), ofPieces_singleton, String.append_empty] at htext
    rw [← htext]
    exact endsInSlash_append_slash _

/-- A joined path has the stem of the directory and the pieces of the name. -/
theorem pieces_join {directory name : String} (hdirectory : directory ≠ "")
    (hname : isAbsolute name = false) :
    pieces (join directory name) = stem directory ++ pieces name := by
  by_cases hend : EndsInSlash directory
  · have htext : directory.toList.dropLast ++ [slash] = directory.toList :=
      List.dropLast_append_getLast? slash hend
    have hdir : directory = String.ofList directory.toList.dropLast ++ "/" := by
      rw [← String.toList_inj, String.toList_append, String.toList_ofList, ← htext]
      simp [slash]
    have hpieces : pieces directory = pieces (String.ofList directory.toList.dropLast) ++ [""] := by
      have hempty := pieces_append_slash (String.ofList directory.toList.dropLast) ""
      rw [String.append_empty, ← hdir] at hempty
      exact hempty
    have hstem : stem directory = pieces (String.ofList directory.toList.dropLast) := by
      rw [stem, hpieces, if_pos List.getLast?_concat, List.dropLast_concat]
    rw [join_of_endsInSlash hdirectory hname hend, hstem, ← pieces_append_slash, ← hdir]
  · have hstem : stem directory = pieces directory := by
      rw [stem, if_neg fun hlast => hend (endsInSlash_of_last hdirectory hlast)]
    rw [join_of_not_endsInSlash hdirectory hname hend, pieces_append_slash, hstem]

/-! ## Normal paths -/

theorem root_cases (path : String) : root path = "" ∨ root path = "/" ∨ root path = "//" := by
  unfold root
  split <;> simp

/-- The root of a path and what follows it tell each other. -/
theorem root_root_append (path : String) {rest : String} (h : isAbsolute rest = false) :
    root (root path ++ rest) = root path := by
  have hnone : rest.toList.takeWhile (· == slash) = [] := by
    rw [isAbsolute] at h
    cases hlist : rest.toList with
    | nil => rfl
    | cons c cs =>
      rw [hlist] at h
      exact List.takeWhile_cons_of_neg (by simpa using h)
  have hfront {front : String} (hfront : ∀ c ∈ front.toList, (c == slash) = true) :
      (front ++ rest).toList.takeWhile (· == slash) = front.toList := by
    rw [String.toList_append, List.takeWhile_append_of_pos hfront, hnone, List.append_nil]
  rcases root_cases path with hroot | hroot | hroot <;>
    rw [hroot, root, hfront (by simp [slash])] <;> rfl

/-- Behind its root a path is in pieces as it was put together. -/
theorem exists_pieces_root_append (path : String) {names : List String} (hne : names ≠ [])
    (h : ∀ name ∈ names, slash ∉ name.toList) :
    ∃ k, pieces (root path ++ ofPieces names) = List.replicate k "" ++ names := by
  have hnames := pieces_ofPieces hne h
  have hslash (rest : String) : pieces ("/" ++ rest) = "" :: pieces rest := by
    have hpieces := pieces_append_slash "" rest
    rwa [String.empty_append] at hpieces
  rcases root_cases path with hroot | hroot | hroot <;> rw [hroot]
  · exact ⟨0, by rw [String.empty_append, hnames]; rfl⟩
  · exact ⟨1, by rw [hslash, hnames]; rfl⟩
  · exact ⟨2, by rw [show "//" = "/" ++ "/" from rfl, String.append_assoc, hslash, hslash, hnames]; rfl⟩

/-- The steps of a path are names. -/
theorem isName_of_mem_steps {path name : String} (h : name ∈ (pieces path).filter isStep) :
    IsName name := by
  rw [List.mem_filter] at h
  refine ⟨?_, slash_not_mem_of_mem_pieces h.1⟩
  rintro rfl
  cases h.2

/-- A normal path has the root and the steps of the path. -/
theorem normal_eq {path : String} {steps : List String} (hne : steps ≠ [])
    (h : (pieces path).filter isStep = steps) : normal path = root path ++ ofPieces steps := by
  have hnames : ∀ name ∈ steps, IsName name := fun name hname => isName_of_mem_steps (h ▸ hname)
  unfold normal
  rw [h]
  split
  · rename_i hempty
    exact absurd (String.append_eq_empty_iff.1 hempty).2 (ofPieces_ends hne hnames).1
  · rfl

/-- The last step of a normal path stands behind a directory. -/
theorem join_root {path : String} {front : List String} {last : String} (hne : front ≠ [])
    (h : ∀ name ∈ front ++ [last], IsName name) :
    join (root path ++ ofPieces front) last = root path ++ ofPieces (front ++ [last]) := by
  obtain ⟨hfront, hlast⟩ := List.forall_mem_append.1 h
  obtain ⟨hempty, hend⟩ := ofPieces_ends hne hfront
  have hlast := isAbsolute_of_slash_not_mem (hlast last (List.mem_singleton_self last)).slash_not_mem
  rw [join_of_not_endsInSlash (fun h => hempty (String.append_eq_empty_iff.1 h).2) hlast
    (fun h => hend ((endsInSlash_append hempty).1 h)), ofPieces_append hne (by simp),
    ofPieces_singleton]
  simp only [String.append_assoc]

/-! ## Sizes and the NUL character -/

theorem size_append (s s' : String) : size (s ++ s') = size s + size s' := by
  rw [size, octetsOf, String.toList_append, List.flatMap_append, List.length_append]
  rfl

theorem size_le_size_join (directory : String) {name : String} (h : isAbsolute name = false) :
    size directory ≤ size (join directory name) := by
  obtain ⟨rest, hrest⟩ := exists_join_eq directory h
  rw [hrest, size_append]
  exact Nat.le_add_right _ _

theorem hasNul_append (s s' : String) : hasNul (s ++ s') = (hasNul s || hasNul s') := by
  rw [hasNul, String.toList_append, List.any_append]
  rfl

theorem hasNul_ofPieces (names : List String) : hasNul (ofPieces names) = names.any hasNul := by
  induction names with
  | nil => rfl
  | cons name names ih =>
    cases names with
    | nil => rw [ofPieces_singleton, List.any_cons, List.any_nil, Bool.or_false]
    | cons next names =>
      have hslash : hasNul "/" = false := by decide
      rw [ofPieces_cons_cons, hasNul_append, hasNul_append, ih, hslash, Bool.or_false, ← List.any_cons]

theorem any_hasNul_pieces (path : String) : (pieces path).any hasNul = hasNul path := by
  rw [← hasNul_ofPieces, ofPieces_pieces]

end Path

end Restyle
