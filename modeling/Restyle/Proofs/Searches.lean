import Restyle.Proofs.Endings
import Restyle.Proofs.PathsBelow

/-!
# Searches below a directory

A directory that is given for its files is searched by a pattern: its own path, a name that stands for
any number of directories, and a star before each ending. So the path of the directory is a pattern
itself, and the search goes on below all directories that this pattern leads to
(`FileSet.origins`). What it finds are names below one of them, the last with the ending
(`FileSet.exists_names_of_found`). For a path without wildcards that is the directory alone
(`FileSet.origins_of_plain`, `FileSet.directoryAt?_of_mem_origins`).
-/

namespace Restyle

open Text

namespace FileSet

open Restyle.Tree

variable {t : Tree} {directory ending path : String} {l m : Location}

/-! ## The pattern of a directory -/

/-- Whether a name stands before all wildcards. -/
def isPlain (name : String) : Bool :=
  !Wildcard.isMagic name

theorem dropInnerEmpty_concat (front : List String) (last : String) :
    dropInnerEmpty (front ++ [last]) = front.filter (· ≠ "") ++ [last] := by
  induction front with
  | nil => rfl
  | cons name front ih =>
    have hcons : dropInnerEmpty (name :: (front ++ [last])) =
        if name = "" then dropInnerEmpty (front ++ [last])
        else name :: dropInnerEmpty (front ++ [last]) := by
      cases front <;> rfl
    rw [List.cons_append, hcons, ih]
    by_cases hname : name = "" <;> simp [hname]

/-- The names with which a directory is searched for: those from the first one with a wildcard on. -/
def ownNames (directory : String) : List String :=
  ((Path.stem directory).dropWhile isPlain).filter (· ≠ "")

/-- Where the search of a directory starts. -/
def ownBase (directory : String) : String :=
  baseOf ((Path.stem directory).takeWhile isPlain)

/-- The search below a directory goes on behind the search of the directory itself. -/
theorem ofPattern_below (hne : directory ≠ "") (hslash : Path.slash ∉ ending.toList) :
    Search.ofPattern (Path.join (Path.join directory anyDepth) ("*" ++ ending)) =
      ⟨ownBase directory, ownNames directory ++ [anyDepth, "*" ++ ending]⟩ := by
  have hstar : Path.slash ∉ ("*" ++ ending).toList := by
    rw [String.toList_append, List.mem_append]
    exact fun h => h.elim (by decide) hslash
  have hpieces := pieces_below hne ending
  rw [Path.pieces_of_slash_not_mem hstar] at hpieces
  have hany : isPlain anyDepth = false := by decide
  obtain ⟨htake, hdrop⟩ :=
    takeWhile_dropWhile_append_cons hany (Path.stem directory) ["*" ++ ending]
  have hnames : dropInnerEmpty ((Path.stem directory).dropWhile isPlain ++
      anyDepth :: ["*" ++ ending]) = ownNames directory ++ [anyDepth, "*" ++ ending] := by
    rw [← List.singleton_append, ← List.append_assoc, dropInnerEmpty_concat, List.filter_append,
      List.append_assoc]
    rfl
  show (⟨baseOf ((Path.pieces _).takeWhile isPlain),
    dropInnerEmpty ((Path.pieces _).dropWhile isPlain)⟩ : Search) = _
  rw [hpieces, htake, hdrop, hnames, ownBase]

/-! ## Where a search comes to -/

/-- The directories that some names of a search lead to on its way. -/
def lead (t : Tree) (names directories : List String) : List String :=
  names.foldl (fun found name => found.flatMap (step t true name)) directories

theorem steps_append (names directories : List String) {rest : List String} (hrest : rest ≠ []) :
    steps t (names ++ rest) directories = steps t rest (lead t names directories) := by
  induction names generalizing directories with
  | nil => rfl
  | cons name names ih =>
    have hmore : names ++ rest ≠ [] := by simp [hrest]
    rw [List.cons_append, steps, ih]
    · rfl
    · exact hmore

/-- The directories that the path of a directory leads to as a pattern. -/
def origins (t : Tree) (directory : String) : List String :=
  lead t (ownNames directory) [ownBase directory]

/-- The directories at and below the origins of a search, in which files are looked for. -/
def searched (t : Tree) (directory : String) : List String :=
  (origins t directory).flatMap (step t true anyDepth)

/-- What is found with one ending, files or not. -/
def foundWith (t : Tree) (directory ending : String) : List String :=
  (searched t directory).flatMap (step t false ("*" ++ ending))

theorem search_below (hwalk : t.walk directory = .ok (.directory l))
    (hslash : Path.slash ∉ ending.toList) :
    search t (Path.join (Path.join directory anyDepth) ("*" ++ ending)) =
      .ok (foundWith t directory ending) := by
  have hne := ne_empty_of_walk hwalk
  have hdirectory : t.isDirectory directory = true := by rw [Tree.isDirectory, hwalk]
  have husable := not_unsearchable_below hdirectory ending
  rw [Unsearchable, ofPattern_below hne hslash] at husable
  have hnames : ownNames directory ++ [anyDepth, "*" ++ ending] ≠ [] := by simp
  rw [search, ofPattern_below hne hslash]
  dsimp only
  rw [if_neg hnames, if_neg fun hnul => husable ⟨hnames, hnul⟩, steps_append _ _ (by simp)]
  rfl

/-- A directory stands for the regular files among what is found with each ending. -/
theorem ofDirectory_eq (hwalk : t.walk directory = .ok (.directory l)) {endings : List String}
    (hslash : ∀ ending ∈ endings, Path.slash ∉ ending.toList) :
    ofDirectory t directory endings =
      .ok (regularFiles t (endings.flatMap (foundWith t directory))) := by
  have hall : (endings.map id).mapM (fun ending =>
      search t (Path.join (Path.join directory anyDepth) ("*" ++ ending))) =
        .ok (endings.map (foundWith t directory)) :=
    mapM_map_ok fun ending hending => search_below hwalk (hslash ending hending)
  rw [List.map_id] at hall
  rw [ofDirectory, bind_of_ok hall, List.flatMap_def]
  rfl

theorem ofPattern_of_directory (h : t.walk directory = .ok (.directory l)) (endings : List String) :
    ofPattern t directory endings = ofDirectory t directory endings := by
  have hne := ne_empty_of_walk h
  have hfile : ¬ t.isFile directory = true := by
    rw [Tree.isFile, h]
    exact Bool.false_ne_true
  have hdirectory : t.isDirectory directory = true := by rw [Tree.isDirectory, h]
  rw [ofPattern, if_neg hne, if_neg hfile, if_pos hdirectory]

/-- Files that are found in order stay as they are. -/
theorem regularFiles_of_pairwise {paths files : List String} (hfiles : paths.filter t.isFile = files)
    (hsorted : files.Pairwise (· ≤ ·)) : regularFiles t paths = files := by
  rw [regularFiles, hfiles]
  exact List.mergeSort_of_pairwise (hsorted.imp fun hle => decide_eq_true hle)

theorem ofPattern_eq_of_pairwise (h : t.walk directory = .ok (.directory l))
    {endings files : List String} (hslash : ∀ ending ∈ endings, Path.slash ∉ ending.toList)
    (hfiles : (endings.flatMap (foundWith t directory)).filter t.isFile = files)
    (hsorted : files.Pairwise (· ≤ ·)) : ofPattern t directory endings = .ok files := by
  rw [ofPattern_of_directory h, ofDirectory_eq h hslash, regularFiles_of_pairwise hfiles hsorted]

/-- A pattern that leads nowhere itself is searched for. -/
theorem ofPattern_of_search {pattern : String} {endings found : List String} (hne : pattern ≠ "")
    (h : t.exists? pattern = false) (hsearch : search t pattern = .ok found) :
    ofPattern t pattern endings = .ok (regularFiles t found) := by
  have hfile : ¬ t.isFile pattern = true := fun hfile => by simp [exists_of_isFile hfile] at h
  have hdirectory : ¬ t.isDirectory pattern = true :=
    fun hdirectory => by simp [exists_of_isDirectory hdirectory] at h
  rw [ofPattern, if_neg hne, if_neg hfile, if_neg hdirectory, h, if_neg Bool.false_ne_true,
    bind_of_ok hsearch]
  rfl

/-! ## What a search finds -/

/-- A directory at any depth stands below the one that the search started from, and no name on the way
is hidden. -/
theorem exists_names_of_leads {origin looked : String} (h : Leads t true anyDepth origin looked)
    (hm : t.directoryAt? looked = some m) : ∃ here names,
      t.directoryAt? origin = some here ∧ m = here ++ names ∧
      (∀ name ∈ names, Wildcard.isHidden name = false) ∧
      looked = Path.join origin (Path.ofPieces names) := by
  cases h with
  | here =>
    exact ⟨m, [], directoryAt?_of_join_empty hm, (List.append_nil m).symm, by simp, rfl⟩
  | @below here names n hl hne hnode hn hfits =>
    have hlegal : ∀ name ∈ names, isLegalName name = true :=
      fun name hname => legal_of_node hnode name (List.mem_append_right here hname)
    rw [Fits, if_pos rfl] at hfits
    exact ⟨here, names, hl, directoryAt?_of_join hl hlegal hm, hfits, rfl⟩
  | named hany => exact absurd rfl hany

/-- A file that is found with an ending stands below the directory that is looked in, no name on the
way is hidden, and its own name has the form of the ending. -/
theorem exists_last_of_leads {looked : String} (h : Leads t false ("*" ++ ending) looked path)
    (hfile : t.isFile path = true) : ∃ here names last content,
      t.directoryAt? looked = some here ∧
      (∀ name ∈ names ++ [last], Wildcard.isHidden name = false) ∧
      path = Path.join looked (Path.ofPieces (names ++ [last])) ∧
      t.walk path = .ok (.file (here ++ (names ++ [last])) content) ∧
      Wildcard.isMatch ("*" ++ ending) last = true := by
  have hmagic : Wildcard.isMagic ("*" ++ ending) = true := by
    rw [Wildcard.isMagic, String.toList_append]
    rfl
  have hstar : Wildcard.isHidden ("*" ++ ending) = false := by
    rw [Wildcard.isHidden, String.toList_append]
    rfl
  cases h with
  | here =>
    rw [not_isFile_join_empty] at hfile
    cases hfile
  | named _ hplain => rw [hmagic] at hplain; cases hplain
  | @below here names n hl hne hnode _ hfits =>
    have hlegal : ∀ name ∈ names, isLegalName name = true :=
      fun name hname => legal_of_node hnode name (List.mem_append_right here hname)
    obtain ⟨k, content, hk, hfound⟩ := isFile_iff.1 hfile
    have hw := walk_of_location hk
    rw [placeAt, hfound] at hw
    obtain rfl := location_of_join hl hne hlegal hw
    unfold Fits at hfits
    split at hfits
    · rename_i hany
      obtain ⟨front, last, rfl⟩ := (List.eq_nil_or_concat' names).resolve_left hne
      refine ⟨here, front, last, content, hl, hfits, rfl, hw, ?_⟩
      rw [hany]
      exact Wildcard.isMatch_anyDepth last
    · obtain ⟨-, last, rfl, hshown, hmatch⟩ := hfits
      rw [hstar, Bool.false_or, Bool.not_eq_true'] at hshown
      exact ⟨here, [], last, content, hl, by simpa using hshown, rfl, hw, hmatch⟩

/-- Whatever file is found lies below an origin of the search, under names that are not hidden. -/
theorem exists_names_of_found (hpath : path ∈ foundWith t directory ending)
    (hfile : t.isFile path = true) : ∃ origin ∈ origins t directory, ∃ here names last content,
      t.directoryAt? origin = some here ∧
      (∀ name ∈ names ++ [last], Wildcard.isHidden name = false) ∧
      path = Path.join origin (Path.ofPieces (names ++ [last])) ∧
      t.walk path = .ok (.file (here ++ (names ++ [last])) content) ∧
      Wildcard.isMatch ("*" ++ ending) last = true := by
  obtain ⟨looked, hlooked, hstep⟩ := List.mem_flatMap.1 hpath
  obtain ⟨origin, horigin, hdeep⟩ := List.mem_flatMap.1 hlooked
  obtain ⟨m, names, last, content, hm, hshown, hjoin, hw, hmatch⟩ :=
    exists_last_of_leads (mem_step.1 hstep) hfile
  obtain ⟨here, above, hhere, rfl, hshownAbove, habove⟩ :=
    exists_names_of_leads (mem_step.1 hdeep) hm
  rw [List.append_assoc] at hw
  have hlegal : ∀ name ∈ here ++ (above ++ (names ++ [last])), isLegalName name = true :=
    fun name => legal_of_node (node?_of_walk hw) name
  have hlegalAbove : ∀ name ∈ above, isLegalName name = true := fun name hname =>
    hlegal name (List.mem_append_right _ (List.mem_append_left _ hname))
  have hlegalBelow : ∀ name ∈ names ++ [last], isLegalName name = true := fun name hname =>
    hlegal name (List.mem_append_right _ (List.mem_append_right _ hname))
  refine ⟨origin, horigin, here, above ++ names, last, content, hhere, ?_, ?_, ?_, hmatch⟩
  · intro name hname
    rw [List.append_assoc] at hname
    exact (List.mem_append.1 hname).elim (hshownAbove name) (hshown name)
  · rw [hjoin, habove, Path.join_join _ (isAbsolute_ofPieces hlegalAbove)
      (isAbsolute_ofPieces hlegalBelow),
      Path.join_ofPieces (fun name hname => isName_of_legal (hlegalAbove name hname))
        (fun name hname => isName_of_legal (hlegalBelow name hname)) (by simp), List.append_assoc]
  · rwa [List.append_assoc above]

/-! ## Directories without wildcards -/

theorem stem_ne_nil (hne : directory ≠ "") : Path.stem directory ≠ [] := by
  intro hstem
  have htext := Path.ofPieces_pieces directory
  rcases Path.pieces_cases directory with h | h
  · rw [hstem] at h
    exact Path.pieces_ne_nil directory h
  · rw [h, hstem, List.nil_append, Path.ofPieces_singleton] at htext
    exact hne htext.symm

theorem withoutFinalSlashes_stem (hne : directory ≠ "") :
    Path.withoutFinalSlashes (Path.ofPieces (Path.stem directory)) =
      Path.withoutFinalSlashes directory := by
  have htext := Path.ofPieces_pieces directory
  rcases Path.pieces_cases directory with h | h
  · rw [← h, htext]
  · rw [h, Path.ofPieces_append (stem_ne_nil hne) (by simp), Path.ofPieces_singleton,
      String.append_empty] at htext
    rw [← Path.withoutFinalSlashes_append_slash, htext]

theorem mem_pieces_of_mem_stem {piece : String} (h : piece ∈ Path.stem directory) :
    piece ∈ Path.pieces directory := by
  rcases Path.pieces_cases directory with hpieces | hpieces <;> rw [hpieces]
  · exact h
  · exact List.mem_append_left _ h

/-- Empty names make a path of slashes. -/
theorem withoutFinalSlashes_of_empty {names : List String} (h : ∀ name ∈ names, name = "") :
    Path.withoutFinalSlashes (Path.ofPieces names) = "" := by
  induction names using List.reverseRecOn with
  | nil => rfl
  | append_singleton names last ih =>
    rw [List.forall_mem_append] at h
    rw [h.2 last (List.mem_singleton_self last)]
    by_cases hnil : names = []
    · subst hnil
      rfl
    · rw [Path.ofPieces_append hnil (by simp), Path.ofPieces_singleton, String.append_empty,
        Path.withoutFinalSlashes_append_slash]
      exact ih h.1

/-- The pieces of a path of slashes are empty. -/
theorem eq_empty_of_mem_pieces {piece : String} (h : Path.withoutFinalSlashes directory = "")
    (hpiece : piece ∈ Path.pieces directory) : piece = "" := by
  obtain ⟨k, hk⟩ := Path.exists_append_slashes directory
  rw [h, String.empty_append] at hk
  obtain ⟨part, hpart, rfl⟩ := List.mem_map.1 hpiece
  have hnone : part = [] := by
    refine List.eq_nil_iff_forall_not_mem.2 fun c hc => ?_
    obtain ⟨hmem, hne⟩ := mem_of_mem_splitOn hpart c hc
    rw [hk, String.toList_ofList] at hmem
    exact hne (List.eq_of_mem_replicate hmem)
  rw [hnone]

/-- A search for a directory without wildcards starts from its path. -/
theorem baseOf_stem (hne : directory ≠ "") : baseOf (Path.stem directory) = Path.base directory := by
  rw [baseOf, if_neg (stem_ne_nil hne), withoutFinalSlashes_stem hne, Path.base]
  by_cases hall : (Path.stem directory).all (· = "") = true
  · have hempty : ∀ name ∈ Path.stem directory, name = "" := by simpa using hall
    have hslashes := withoutFinalSlashes_of_empty hempty
    rw [withoutFinalSlashes_stem hne] at hslashes
    rw [if_pos hall, if_pos hslashes]
    -- The last piece of the path is empty, and so it is not in the stem.
    have htext := Path.ofPieces_pieces directory
    obtain ⟨front, last, hsplit⟩ :=
      (List.eq_nil_or_concat' (Path.pieces directory)).resolve_left (Path.pieces_ne_nil directory)
    have hlast : last = "" := eq_empty_of_mem_pieces hslashes (by simp [hsplit])
    rw [hlast] at hsplit
    have hstem : Path.stem directory = front := by
      rw [Path.stem, hsplit, if_pos List.getLast?_concat, List.dropLast_concat]
    rw [hsplit, ← hstem, Path.ofPieces_append (stem_ne_nil hne) (by simp),
      Path.ofPieces_singleton, String.append_empty] at htext
    exact htext
  · have hslashes : Path.withoutFinalSlashes directory ≠ "" := fun h => hall <| by
      simpa using fun name hname => eq_empty_of_mem_pieces h (mem_pieces_of_mem_stem hname)
    rw [if_neg hall, if_neg hslashes]

theorem isPlain_of_mem_stem (h : Wildcard.isMagic directory = false) {piece : String}
    (hpiece : piece ∈ Path.stem directory) : isPlain piece = true := by
  obtain ⟨part, hpart, rfl⟩ := List.mem_map.1 (mem_pieces_of_mem_stem hpiece)
  rw [Wildcard.isMagic, List.any_eq_false] at h
  rw [isPlain, Wildcard.isMagic, String.toList_ofList, Bool.not_eq_true', List.any_eq_false]
  exact fun c hc => h c (mem_of_mem_splitOn hpart c hc).1

/-- Without wildcards the search stays below the directory itself. -/
theorem origins_of_plain (hne : directory ≠ "") (hplain : Wildcard.isMagic directory = false) :
    origins t directory = [Path.base directory] := by
  have hall : ∀ piece ∈ Path.stem directory, isPlain piece = true :=
    fun piece => isPlain_of_mem_stem hplain
  have htake : (Path.stem directory).takeWhile isPlain = Path.stem directory :=
    List.takeWhile_eq_self_iff.2 hall
  have hdrop : (Path.stem directory).dropWhile isPlain = [] :=
    List.dropWhile_eq_nil_iff.2 hall
  have hbase : ownBase directory = Path.base directory := by
    rw [ownBase, htake, baseOf_stem hne]
  rw [origins, ownNames, hdrop, hbase]
  rfl

/-- A path without wildcards leads, as a pattern, to its own directory. -/
theorem directoryAt?_of_mem_origins (hwalk : t.walk directory = .ok (.directory l))
    (hplain : Wildcard.isMagic directory = false) {origin : String}
    (horigin : origin ∈ origins t directory) : t.directoryAt? origin = some l := by
  have hne := ne_empty_of_walk hwalk
  rw [origins_of_plain hne hplain, List.mem_singleton] at horigin
  rw [horigin]
  exact directoryAt?_base hwalk

end FileSet

end Restyle
