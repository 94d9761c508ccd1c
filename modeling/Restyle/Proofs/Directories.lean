import Restyle.Proofs.Renamings
import Restyle.Proofs.Searches

/-!
# The files of a directory

A directory without wildcards in its path stands for the files below it: all those whose names, and
those of the directories on the way, are not hidden, each as often as there are endings that its name
has (`directory_lists_each_file`). One ending finds no path twice (`FileSet.nodup_foundWith`), so the
number comes from the endings alone. Only a file whose path is too long for the system is left out.
-/

namespace Restyle

open Text

/-! ## Nothing is listed twice -/

namespace Tree

variable {t : Tree} {directoriesOnly : Bool} {directory : String}

/-- Entries that are told apart by their locations are told apart by what stands for these. -/
theorem nodup_map_fst_filterMap {α : Type} (t : Tree) {f : Location → Option α}
    (hf : ∀ m m' a, f m = some a → f m' = some a → m = m') :
    ((t.entries.filterMap fun e => (f e.1).map fun a => (a, e.2)).map Prod.fst).Nodup := by
  have hmap : (t.entries.filterMap fun e => (f e.1).map fun a => (a, e.2)).map Prod.fst =
      (t.entries.map Prod.fst).filterMap f := by
    rw [List.map_filterMap, List.filterMap_map]
    refine List.filterMap_congr fun e _ => ?_
    rw [Option.map_map]
    exact congrFun Option.map_id (f e.1)
  rw [hmap]
  exact t.sound.nodup.filterMap fun m m' a hm hm' => hf m m' a hm hm'

theorem nodup_namesIn (t : Tree) (l : Location) : ((t.namesIn l).map Prod.fst).Nodup := by
  have hnames : t.namesIn l = t.entries.filterMap fun e =>
      (if e.1.dropLast = l then e.1.getLast? else none).map fun name => (name, e.2) := by
    refine List.filterMap_congr fun e _ => ?_
    split <;> rfl
  rw [hnames]
  refine nodup_map_fst_filterMap t (f := fun m => if m.dropLast = l then m.getLast? else none) ?_
  have hback {m : Location} {name : String}
      (h : (if m.dropLast = l then m.getLast? else none) = some name) : m = l ++ [name] := by
    split at h
    · rename_i hl
      rw [← hl, List.dropLast_append_getLast? _ h]
    · cases h
  intro m m' name hm hm'
  rw [hback hm, hback hm']

theorem nodup_below (t : Tree) (l : Location) : ((t.below l).map Prod.fst).Nodup := by
  have hnames : t.below l = t.entries.filterMap fun e =>
      (if l.isPrefixOf e.1 && e.1 ≠ l then some (e.1.drop l.length) else none).map
        fun names => (names, e.2) := by
    refine List.filterMap_congr fun e _ => ?_
    split <;> rfl
  rw [hnames]
  refine nodup_map_fst_filterMap t
    (f := fun m => if l.isPrefixOf m && m ≠ l then some (m.drop l.length) else none) ?_
  have hback {m names : Location}
      (h : (if l.isPrefixOf m && m ≠ l then some (m.drop l.length) else none) = some names) :
      m = l ++ names := by
    split at h
    · rename_i hl
      rw [Bool.and_eq_true, List.isPrefixOf_iff_prefix] at hl
      obtain ⟨more, rfl⟩ := hl.1
      rw [← Option.some.inj h, List.drop_left]
    · cases h
  intro m m' names hm hm'
  rw [hback hm, hback hm']

theorem nodup_list : (t.list directoriesOnly directory).Nodup := by
  rw [list]
  split
  · exact (List.filter_sublist.map _).nodup (nodup_namesIn t _)
  · exact List.nodup_nil

theorem nodup_descend : (t.descend directoriesOnly directory).Nodup := by
  rw [descend]
  split
  case h_2 => exact List.nodup_nil
  case h_1 l _ =>
    have hlegal {e : Location × Node} (h : e ∈ t.below l) :
        e.1 ≠ [] ∧ ∀ name ∈ e.1, Path.slash ∉ name.toList := by
      obtain ⟨hne, hnode⟩ := mem_below.1 h
      exact ⟨hne, fun name hname => slash_not_mem_of_legal
        (legal_of_node hnode name (List.mem_append_right l hname))⟩
    have hnames : (((t.below l).filter fun e => (!directoriesOnly || e.2 == .directory) &&
        e.1.all fun name => !Wildcard.isHidden name).map Prod.fst).Nodup :=
      (List.filter_sublist.map _).nodup (nodup_below t l)
    have hpaths := hnames.map_on (f := Path.ofPieces) fun names hmem names' hmem' heq => by
      obtain ⟨e, he, rfl⟩ := List.mem_map.1 hmem
      obtain ⟨e', he', rfl⟩ := List.mem_map.1 hmem'
      obtain ⟨hne, hslash⟩ := hlegal (List.mem_filter.1 he).1
      obtain ⟨hne', hslash'⟩ := hlegal (List.mem_filter.1 he').1
      exact Path.ofPieces_injective hne hne' hslash hslash' heq
    rwa [List.map_map] at hpaths

end Tree

namespace FileSet

open Restyle.Tree

variable {t : Tree} {directory ending looked path : String} {l : Location}

/-- Directories at any depth are named by the names that lead down to them. -/
theorem exists_names_of_mem_deep (h : looked ∈ step t true anyDepth directory) :
    ∃ names, (∀ name ∈ names, isLegalName name = true) ∧
      looked = Path.join directory (Path.ofPieces names) := by
  cases mem_step.1 h with
  | here => exact ⟨[], by simp, rfl⟩
  | @below here names n _ _ hnode =>
    exact ⟨names, fun name hname => legal_of_node hnode name (List.mem_append_right here hname), rfl⟩
  | named hany => exact absurd rfl hany

theorem star_ne_anyDepth (hplain : Wildcard.isMagic ending = false) : "*" ++ ending ≠ anyDepth := by
  intro h
  have hstar : ending = "*" := by
    rw [anyDepth, ← String.toList_inj, String.toList_append] at h
    have htext : "*".toList ++ ending.toList = "*".toList ++ "*".toList := h
    exact String.toList_inj.1 (List.append_cancel_left htext)
  rw [hstar] at hplain
  exact absurd hplain (by decide)

theorem isMagic_star (ending : String) : Wildcard.isMagic ("*" ++ ending) = true := by
  rw [Wildcard.isMagic, String.toList_append]
  rfl

/-- One ending finds names that stand directly in the directory that is looked in. -/
theorem step_star (hplain : Wildcard.isMagic ending = false) :
    step t false ("*" ++ ending) looked =
      (matching t false looked ("*" ++ ending)).map (Path.join looked) := by
  rw [step, if_neg (star_ne_anyDepth hplain), if_pos (isMagic_star ending)]

theorem legal_of_mem_matching {pattern name : String}
    (h : name ∈ matching t false looked pattern) : isLegalName name = true := by
  obtain ⟨l, n, -, hnode, -⟩ := mem_list.1 (List.mem_filter.1 h).1
  exact legal_of_node hnode name (by simp)

/-- One name of a search leads to no path twice from a directory. -/
theorem nodup_step {directoriesOnly : Bool} {name : String} (hname : Path.isAbsolute name = false) :
    (step t directoriesOnly name directory).Nodup := by
  have hrelative : Path.isAbsolute "" = false := rfl
  have hself (here : Bool) : (if here then [""] else []).Nodup ∧
      ∀ path ∈ (if here then [""] else []), path = "" := by
    cases here <;> simp
  have hdescend {path : String} (h : path ∈ t.descend directoriesOnly directory) :
      path ≠ "" ∧ Path.isAbsolute path = false := by
    obtain ⟨l, names, n, -, hne, hnode, -, -, rfl⟩ := mem_descend.1 h
    have hlegal : ∀ name ∈ names, isLegalName name = true :=
      fun name hname => legal_of_node hnode name (List.mem_append_right l hname)
    exact ⟨ofPieces_ne_empty hne hlegal, isAbsolute_ofPieces hlegal⟩
  have hjoined {found : List String} (hnodup : found.Nodup)
      (h : ∀ path ∈ found, Path.isAbsolute path = false) :
      (found.map (Path.join directory)).Nodup :=
    hnodup.map_on fun path hpath path' hpath' =>
      Path.join_injective directory (h path hpath) (h path' hpath')
  rw [step]
  apply hjoined
  · split
    · obtain ⟨hnodup, hempty⟩ := hself (directory = "" || t.isDirectory directory)
      exact hnodup.append nodup_descend fun path hpath hbelow =>
        (hdescend hbelow).1 (hempty path hpath)
    split
    · exact nodup_list.sublist List.filter_sublist
    split
    · exact (hself (t.isDirectory directory)).1
    · split <;> simp
  · intro path hpath
    split at hpath
    · rcases List.mem_append.1 hpath with hpath | hpath
      · rw [(hself _).2 path hpath]
        exact hrelative
      · exact (hdescend hpath).2
    split at hpath
    · obtain ⟨l, n, -, hnode, -⟩ := mem_list.1 (List.mem_filter.1 hpath).1
      exact Path.isAbsolute_of_slash_not_mem
        (slash_not_mem_of_legal (legal_of_node hnode path (by simp)))
    split at hpath
    · rw [(hself _).2 path hpath]
      exact hrelative
    · split at hpath
      · rwa [List.mem_singleton.1 hpath]
      · cases hpath

/-- A path below a directory. -/
def pathBelow (directory : String) (names : Location) : String :=
  Path.join (Path.base directory) (Path.ofPieces names)

theorem pathBelow_injective {names names' : Location} (hne : names ≠ []) (hne' : names' ≠ [])
    (h : ∀ name ∈ names, isLegalName name = true) (h' : ∀ name ∈ names', isLegalName name = true)
    (heq : pathBelow directory names = pathBelow directory names') : names = names' :=
  Path.ofPieces_injective hne hne' (fun name hname => slash_not_mem_of_legal (h name hname))
    (fun name hname => slash_not_mem_of_legal (h' name hname))
    (Path.join_injective _ (isAbsolute_ofPieces h) (isAbsolute_ofPieces h') heq)

theorem join_pathBelow {names : Location} {name : String}
    (hnames : ∀ name ∈ names, isLegalName name = true) (hname : isLegalName name = true) :
    Path.join (pathBelow directory names) name = pathBelow directory (names ++ [name]) := by
  have hlast : ∀ last ∈ [name], isLegalName last = true := by simpa using hname
  have hrelative := Path.isAbsolute_of_slash_not_mem (slash_not_mem_of_legal hname)
  rw [pathBelow, pathBelow, Path.join_join _ (isAbsolute_ofPieces hnames) hrelative,
    ← Path.join_ofPieces (fun name hname => isName_of_legal (hnames name hname))
      (fun name hname => isName_of_legal (hlast name hname)) (by simp), Path.ofPieces_singleton]

theorem foundWith_of_plain (hwalk : t.walk directory = .ok (.directory l))
    (hplain : Wildcard.isMagic directory = false) : foundWith t directory ending =
      (step t true anyDepth (Path.base directory)).flatMap (step t false ("*" ++ ending)) := by
  have hne := ne_empty_of_walk hwalk
  rw [foundWith, searched, origins_of_plain hne hplain, List.flatMap_cons, List.flatMap_nil,
    List.append_nil]

/-- One ending finds no path twice. -/
theorem nodup_foundWith (hwalk : t.walk directory = .ok (.directory l))
    (hplain : Wildcard.isMagic directory = false) (hending : Wildcard.isMagic ending = false) :
    (foundWith t directory ending).Nodup := by
  rw [foundWith_of_plain hwalk hplain, List.nodup_flatMap]
  refine ⟨fun looked _ => nodup_step (isAbsolute_star ending),
    (nodup_step (by decide)).pairwise_of_forall_ne ?_⟩
  intro looked hlooked looked' hlooked' hdiffer path hpath hpath'
  rw [step_star hending] at hpath hpath'
  obtain ⟨name, hname, rfl⟩ := List.mem_map.1 hpath
  obtain ⟨name', hname', heq⟩ := List.mem_map.1 hpath'
  obtain ⟨names, hlegal, rfl⟩ := exists_names_of_mem_deep hlooked
  obtain ⟨names', hlegal', rfl⟩ := exists_names_of_mem_deep hlooked'
  have hlast := legal_of_mem_matching hname
  have hlast' := legal_of_mem_matching hname'
  have heq : pathBelow directory (names' ++ [name']) = pathBelow directory (names ++ [name]) := by
    rw [← join_pathBelow hlegal hlast, ← join_pathBelow hlegal' hlast']
    exact heq
  have hnames := pathBelow_injective (by simp) (by simp)
    (List.forall_mem_append.2 ⟨hlegal', by simpa using hlast'⟩)
    (List.forall_mem_append.2 ⟨hlegal, by simpa using hlast⟩) heq
  exact hdiffer (by rw [(List.append_inj' hnames rfl).1])

/-! ## Which files are found -/

/-- A file with the ending is found, unless its path is too long. -/
theorem mem_foundWith (hwalk : t.walk directory = .ok (.directory l))
    (hplain : Wildcard.isMagic directory = false) (hending : Wildcard.isMagic ending = false)
    {names : Location} {last : String} {n : Node}
    (hnode : t.node? (l ++ (names ++ [last])) = some n)
    (hshown : ∀ name ∈ names ++ [last], Wildcard.isHidden name = false)
    (hsize : Path.size (pathBelow directory (names ++ [last])) < Path.pathLimit)
    (hend : ending.toList <:+ last.toList) :
    pathBelow directory (names ++ [last]) ∈ foundWith t directory ending := by
  have hne := ne_empty_of_walk hwalk
  have hbase := directoryAt?_base hwalk
  have hbase_ne := Path.base_ne_empty hne
  have hlegal : ∀ name ∈ names ++ [last], isLegalName name = true :=
    fun name hname => legal_of_node hnode name (List.mem_append_right l hname)
  obtain ⟨hnames, hlast⟩ := List.forall_mem_append.1 hlegal
  have hlast := hlast last (List.mem_singleton_self last)
  rw [List.forall_mem_append] at hshown
  rw [← List.append_assoc] at hnode
  have habove : t.node? (l ++ names) = some .directory := directory_above (by simp) hnode
  rw [← join_pathBelow hnames hlast] at hsize ⊢
  have hlooked : t.directoryAt? (pathBelow directory names) = some (l ++ names) :=
    directoryAt?_join_names hbase hbase_ne habove (Nat.lt_of_le_of_lt (Path.size_le_size_join _
      (Path.isAbsolute_of_slash_not_mem (slash_not_mem_of_legal hlast))) hsize)
  have hdeep : pathBelow directory names ∈
      step t true anyDepth (Path.base directory) := by
    rw [mem_step]
    by_cases hnil : names = []
    · have hself : t.isDirectory (Path.base directory) = true := by
        rw [Tree.isDirectory, walk_of_directoryAt? hbase hbase_ne]
      rw [hnil]
      exact .here (.inl ⟨rfl, .inr hself⟩)
    · refine .below hbase hnil habove (fun _ => rfl) ?_
      rw [Fits, if_pos rfl]
      exact hshown.1
  rw [foundWith_of_plain hwalk hplain, List.mem_flatMap]
  refine ⟨pathBelow directory names, hdeep, ?_⟩
  rw [step_star hending]
  refine List.mem_map_of_mem (List.mem_filter.2 ⟨?_, ?_⟩)
  · exact mem_list.2 ⟨l ++ names, n, hlooked, hnode, fun h => absurd h Bool.false_ne_true⟩
  · rw [(Wildcard.isMatch_star_iff hending).2 hend, hshown.2 last (List.mem_singleton_self last),
      Bool.not_false, Bool.or_true, Bool.and_true]

/-- A file that is found is one with the ending, under names that are not hidden. -/
theorem exists_names_of_mem_foundWith (hwalk : t.walk directory = .ok (.directory l))
    (hplain : Wildcard.isMagic directory = false) (hending : Wildcard.isMagic ending = false)
    (hpath : path ∈ foundWith t directory ending) (hfile : t.isFile path = true) :
    ∃ names last content, path = pathBelow directory (names ++ [last]) ∧
      t.walk path = .ok (.file (l ++ (names ++ [last])) content) ∧
      (∀ name ∈ names ++ [last], Wildcard.isHidden name = false) ∧
      ending.toList <:+ last.toList := by
  have hne := ne_empty_of_walk hwalk
  obtain ⟨origin, horigin, here, names, last, content, hhere, hshown, hjoin, hw, hmatch⟩ :=
    exists_names_of_found hpath hfile
  obtain rfl : here = l := Option.some.inj
    (hhere.symm.trans (directoryAt?_of_mem_origins hwalk hplain horigin))
  rw [origins_of_plain hne hplain, List.mem_singleton] at horigin
  rw [horigin] at hjoin
  exact ⟨names, last, content, hjoin, hw, hshown, (Wildcard.isMatch_star_iff hending).1 hmatch⟩

/-! ## How often a file is listed -/

/-- Only paths of files lead to a file. -/
theorem timesListed_regularFiles {m : Location} {content : Octets}
    (hnode : t.node? m = some (.file content)) (paths : List String) :
    t.timesListed (regularFiles t paths) m = t.timesListed paths m := by
  have hperm : (regularFiles t paths).Perm (paths.filter t.isFile) := List.mergeSort_perm _ _
  rw [Tree.timesListed, hperm.countP_eq, List.countP_filter, Tree.timesListed]
  refine List.countP_congr fun path _ => ?_
  rw [Bool.and_eq_true, decide_eq_true_eq, and_iff_left_iff_imp]
  exact fun hloc => isFile_iff.2 ⟨m, content, hloc, hnode⟩

/-- One ending lists a file once, if the file has it and its path is not too long. -/
theorem timesListed_foundWith (hwalk : t.walk directory = .ok (.directory l))
    (hplain : Wildcard.isMagic directory = false) (hending : Wildcard.isMagic ending = false)
    {names : Location} {last : String} {content : Octets}
    (hnode : t.node? (l ++ (names ++ [last])) = some (.file content))
    (hshown : ∀ name ∈ names ++ [last], Wildcard.isHidden name = false) :
    t.timesListed (foundWith t directory ending) (l ++ (names ++ [last])) =
      if Path.size (pathBelow directory (names ++ [last])) < Path.pathLimit ∧
        ending.toList <:+ last.toList then 1 else 0 := by
  -- What leads to the file is its path below the directory.
  have hown : ∀ path ∈ foundWith t directory ending,
      t.location? path = some (l ++ (names ++ [last])) →
      path = pathBelow directory (names ++ [last]) ∧ Path.size path < Path.pathLimit ∧
        ending.toList <:+ last.toList := by
    intro path hpath hloc
    obtain ⟨names', last', content', rfl, hw, -, hend⟩ := exists_names_of_mem_foundWith hwalk hplain
      hending hpath (isFile_iff.2 ⟨_, content, hloc, hnode⟩)
    have hsame := List.append_cancel_left
      (Option.some.inj ((location_of_walk_file hw).symm.trans hloc))
    obtain ⟨rfl, hlast⟩ := List.append_inj' hsame rfl
    obtain rfl := List.singleton_inj.1 hlast
    exact ⟨rfl, (walk_eq_ok_iff.1 hw).2.2.1, hend⟩
  split
  · rename_i hif
    have hmem := mem_foundWith hwalk hplain hending hnode hshown hif.1 hif.2
    have hbase := directoryAt?_base hwalk
    have hbase_ne := Path.base_ne_empty (ne_empty_of_walk hwalk)
    have hw := walk_join_names hbase hbase_ne (by simp) hnode hif.1
    rw [placeAt, hnode] at hw
    rw [← List.count_eq_one_of_mem (nodup_foundWith hwalk hplain hending) hmem, Tree.timesListed,
      List.count]
    refine List.countP_congr fun path hpath => ?_
    rw [decide_eq_true_eq, beq_iff_eq]
    refine ⟨fun hloc => (hown path hpath hloc).1, ?_⟩
    rintro rfl
    exact location_of_walk_file hw
  · rename_i hif
    rw [Tree.timesListed, List.countP_eq_zero]
    intro path hpath hloc
    obtain ⟨rfl, hsize, hend⟩ := hown path hpath (of_decide_eq_true hloc)
    exact hif ⟨hsize, hend⟩

/-- All endings together list a file as often as it has one of them. -/
theorem timesListed_ofDirectory (hwalk : t.walk directory = .ok (.directory l))
    (hplain : Wildcard.isMagic directory = false) {endings files : List String}
    (hendings : ∀ ending ∈ endings,
      Wildcard.isMagic ending = false ∧ Path.slash ∉ ending.toList)
    (hfiles : ofDirectory t directory endings = .ok files)
    {names : Location} {last : String} {content : Octets}
    (hnode : t.node? (l ++ (names ++ [last])) = some (.file content))
    (hshown : ∀ name ∈ names ++ [last], Wildcard.isHidden name = false) :
    t.timesListed files (l ++ (names ++ [last])) =
      if Path.size (pathBelow directory (names ++ [last])) < Path.pathLimit
      then endings.countP fun ending => ending.toList <:+ last.toList else 0 := by
  rw [ofDirectory_eq hwalk fun ending hending => (hendings ending hending).2] at hfiles
  rw [← Except.ok.inj hfiles, timesListed_regularFiles hnode]
  clear hfiles
  induction endings with
  | nil => simp [Tree.timesListed]
  | cons ending endings ih =>
    rw [List.forall_mem_cons] at hendings
    have hone := timesListed_foundWith hwalk hplain hendings.1.1 hnode hshown
    have hrest := ih hendings.2
    rw [Tree.timesListed] at hone hrest ⊢
    rw [List.flatMap_cons, List.countP_append, hone, hrest, List.countP_cons]
    by_cases hsize : Path.size (pathBelow directory (names ++ [last])) < Path.pathLimit
    · simp only [hsize, true_and, if_true, decide_eq_true_eq]
      exact Nat.add_comm _ _
    · simp only [hsize, false_and, if_false]

theorem pairwise_regularFiles (t : Tree) (paths : List String) :
    (regularFiles t paths).Pairwise (· ≤ ·) := by
  have htrans (a b c : String) (hab : decide (a ≤ b) = true) (hbc : decide (b ≤ c) = true) :
      decide (a ≤ c) = true :=
    decide_eq_true (String.le_trans (of_decide_eq_true hab) (of_decide_eq_true hbc))
  have htotal (a b : String) : (decide (a ≤ b) || decide (b ≤ a)) = true := by
    simp [String.le_total a b]
  exact (List.pairwise_mergeSort htrans htotal (paths.filter t.isFile)).imp of_decide_eq_true

end FileSet

/-! ## Paths that are too long -/

namespace Path

/-- A path with steps before it that stay where they are. -/
def dotted : Nat → String → String
  | 0, path => path
  | steps + 1, path => "./" ++ dotted steps path

variable {steps : Nat} {path : String}

theorem size_dotted : size (dotted steps path) = 2 * steps + size path := by
  induction steps with
  | zero => rw [dotted, Nat.mul_zero, Nat.zero_add]
  | succ steps ih =>
    have htwo : size "./" = 2 := by decide
    rw [dotted, size_append, ih, htwo]
    omega

theorem isMagic_dotted : Wildcard.isMagic (dotted steps path) = Wildcard.isMagic path := by
  induction steps with
  | zero => rw [dotted]
  | succ steps ih =>
    have hdot : "./".toList.any Wildcard.isMagicChar = false := by decide
    rw [dotted, Wildcard.isMagic, String.toList_append, List.any_append, hdot, Bool.false_or]
    exact ih

theorem dotted_ne_empty (hne : path ≠ "") : dotted steps path ≠ "" := by
  cases steps with
  | zero => exact hne
  | succ steps => exact fun hempty => absurd (String.append_eq_empty_iff.1 hempty).1 (by decide)

theorem isAbsolute_dot : isAbsolute ("./" ++ path) = false := by
  rw [isAbsolute_append (by decide)]
  decide

theorem isAbsolute_dotted (h : isAbsolute path = false) : isAbsolute (dotted steps path) = false := by
  cases steps with
  | zero => exact h
  | succ steps => exact isAbsolute_dot

theorem endsInSlash_dotted (hne : path ≠ "") : EndsInSlash (dotted steps path) ↔ EndsInSlash path := by
  induction steps with
  | zero => rw [dotted]
  | succ steps ih => rw [dotted, endsInSlash_append (dotted_ne_empty hne), ih]

end Path

namespace Tree

variable {t : Tree} {steps : Nat} {path : String} {l : Location}

/-- A step that stays where it is leads to the same directory. -/
theorem walk_dot (h : t.walk path = .ok (.directory l)) (hrelative : Path.isAbsolute path = false)
    (hsize : Path.size ("./" ++ path) < Path.pathLimit) :
    t.walk ("./" ++ path) = .ok (.directory l) := by
  obtain ⟨hnul, -, -, hwalk⟩ := walk_eq_ok_iff.1 h
  have hdot : Path.hasNul "./" = false := by decide
  have hpieces : Path.pieces ("./" ++ path) = "." :: Path.pieces path := by
    rw [show "./" ++ path = "." ++ "/" ++ path from rfl, Path.pieces_append_slash,
      Path.pieces_of_slash_not_mem (by decide), List.singleton_append]
  refine walk_eq_ok_iff.2 ⟨?_, ?_, hsize, ?_⟩
  · rw [Path.hasNul_append, hnul, hdot, Bool.or_false]
  · exact fun hempty => absurd (String.append_eq_empty_iff.1 hempty).1 (by decide)
  · rw [t.start_relative Path.isAbsolute_dot, hpieces, walkFrom, if_pos (by decide),
      ← t.start_relative hrelative]
    exact hwalk

theorem walk_dotted (h : t.walk path = .ok (.directory l)) (hrelative : Path.isAbsolute path = false)
    (hsize : Path.size (Path.dotted steps path) < Path.pathLimit) :
    t.walk (Path.dotted steps path) = .ok (.directory l) := by
  induction steps with
  | zero => exact h
  | succ steps ih =>
    refine walk_dot (ih ?_) (Path.isAbsolute_dotted hrelative) hsize
    rw [Path.size_dotted] at hsize ⊢
    omega

end Tree

/-! ## The whole list -/

/-- **Files of a directory.** A directory without wildcards in its path stands for a list of files in
order. Each of them lies below it, under names that are not hidden, and has one of the endings; and
each such file is listed as often as there are endings that its name has, unless its path has as many
octets as the system takes for too long. All directories can be read, and none of them is a link. -/
theorem directory_lists_each_file (t : Tree) {directory : String} {l : Location}
    (hdirectory : t.walk directory = .ok (.directory l))
    (hplain : Wildcard.isMagic directory = false) {endings : List String}
    (hendings : ∀ ending ∈ endings,
      Wildcard.isMagic ending = false ∧ Path.slash ∉ ending.toList) :
    ∃ files, FileSet.ofDirectory t directory endings = .ok files ∧
      files.Pairwise (· ≤ ·) ∧
      (∀ path ∈ files, ∃ names last content,
        path = FileSet.pathBelow directory (names ++ [last]) ∧
        t.walk path = .ok (.file (l ++ (names ++ [last])) content) ∧
        (∀ name ∈ names ++ [last], Wildcard.isHidden name = false) ∧
        ∃ ending ∈ endings, ending.toList <:+ last.toList) ∧
      ∀ names last content, t.node? (l ++ (names ++ [last])) = some (.file content) →
        (∀ name ∈ names ++ [last], Wildcard.isHidden name = false) →
        t.timesListed files (l ++ (names ++ [last])) =
          if Path.size (FileSet.pathBelow directory (names ++ [last])) < Path.pathLimit
          then endings.countP fun ending => ending.toList <:+ last.toList else 0 := by
  have hfiles := FileSet.ofDirectory_eq hdirectory fun ending hending => (hendings ending hending).2
  refine ⟨_, hfiles, FileSet.pairwise_regularFiles _ _, fun path hpath => ?_,
    fun names last content hnode hshown =>
      FileSet.timesListed_ofDirectory hdirectory hplain hendings hfiles hnode hshown⟩
  obtain ⟨hfound, hfile⟩ := FileSet.mem_regularFiles.1 hpath
  obtain ⟨ending, hending, hfound⟩ := List.mem_flatMap.1 hfound
  obtain ⟨names, last, content, hjoin, hw, hshown, hend⟩ := FileSet.exists_names_of_mem_foundWith
    hdirectory hplain (hendings ending hending).1 hfound hfile
  exact ⟨names, last, content, hjoin, hw, hshown, ending, hending, hend⟩

/-- Two endings that one name has both, a hidden file, and a directory that is named like a file. -/
theorem directory_lists_each_file_twice :
    let t := ((((Tree.empty.place ["d"] .directory).place ["d", "e.css"] .directory).place
      ["d", "e.css", "y.min.css"] (.file [])).place ["d", ".x.css"] (.file [])).place
        ["d", "z.css"] (.file [])
    let endings := [".css", ".min.css"]
    t.walk "d/" = .ok (.directory ["d"]) ∧ Wildcard.isMagic "d/" = false ∧
    (∀ ending ∈ endings, Wildcard.isMagic ending = false ∧ Path.slash ∉ ending.toList) ∧
    t.node? ["d", "e.css", "y.min.css"] = some (.file []) ∧
    (∀ name ∈ ["e.css", "y.min.css"], Wildcard.isHidden name = false) ∧
    ∃ files, FileSet.ofDirectory t "d/" endings = .ok files ∧ files.Pairwise (· ≤ ·) ∧
      t.timesListed files ["d", "e.css", "y.min.css"] = 2 ∧
      t.timesListed files ["d", "z.css"] = 1 ∧
      ∀ path ∈ files, ∃ names last content,
        path = FileSet.pathBelow "d/" (names ++ [last]) ∧
        t.walk path = .ok (.file (["d"] ++ (names ++ [last])) content) ∧
        ∀ name ∈ names ++ [last], Wildcard.isHidden name = false := by
  intro t endings
  have hdirectory : t.walk "d/" = .ok (.directory ["d"]) := by decide +kernel
  have hplain : Wildcard.isMagic "d/" = false := by decide +kernel
  have hendings : ∀ ending ∈ endings, Wildcard.isMagic ending = false ∧
      Path.slash ∉ ending.toList := by decide +kernel
  have hnode : t.node? ["d", "e.css", "y.min.css"] = some (.file []) := by decide +kernel
  have hshown : ∀ name ∈ ["e.css", "y.min.css"], Wildcard.isHidden name = false := by
    decide +kernel
  obtain ⟨files, hfiles, hsorted, hsound, htimes⟩ :=
    directory_lists_each_file t hdirectory hplain hendings
  have htwo := htimes ["e.css"] "y.min.css" [] hnode hshown
  have hone := htimes [] "z.css" [] (by decide +kernel) (by decide +kernel)
  refine ⟨hdirectory, hplain, hendings, hnode, hshown, files, hfiles, hsorted,
    htwo.trans (by decide +kernel), hone.trans (by decide +kernel), fun path hpath => ?_⟩
  obtain ⟨names, last, content, hjoin, hw, hvisible, -⟩ := hsound path hpath
  exact ⟨names, last, content, hjoin, hw, hvisible⟩

/-- A directory of 4081 octets, and a file in it whose path has 4097: it is not listed. -/
theorem file_with_long_path_not_listed :
    let t := (Tree.empty.place ["a"] .directory).place ["a", "long-enough.css"] (.file [])
    let directory := Path.dotted 2040 "a"
    t.walk directory = .ok (.directory ["a"]) ∧ Wildcard.isMagic directory = false ∧
    (∀ ending ∈ [".css"], Wildcard.isMagic ending = false ∧ Path.slash ∉ ending.toList) ∧
    t.node? ["a", "long-enough.css"] = some (.file []) ∧
    (∀ name ∈ ["long-enough.css"], Wildcard.isHidden name = false) ∧
    ∃ files, FileSet.ofDirectory t directory [".css"] = .ok files ∧
      t.timesListed files ["a", "long-enough.css"] = 0 ∧
      [".css"].countP (fun ending => ending.toList <:+ "long-enough.css".toList) = 1 := by
  intro t directory
  have htop : t.walk "a" = .ok (.directory ["a"]) := by decide +kernel
  have hone : Path.size "a" = 1 := by decide
  have hsize : Path.size directory = 4081 := by rw [Path.size_dotted, hone]
  have hdirectory : t.walk directory = .ok (.directory ["a"]) :=
    Tree.walk_dotted htop (by decide) (by rw [Path.size_dotted, hone]; decide)
  have hplain : Wildcard.isMagic directory = false := by
    rw [Path.isMagic_dotted]
    decide
  have hendings : ∀ ending ∈ [".css"], Wildcard.isMagic ending = false ∧
      Path.slash ∉ ending.toList := by decide +kernel
  have hnode : t.node? ["a", "long-enough.css"] = some (.file []) := by decide +kernel
  have hshown : ∀ name ∈ ["long-enough.css"], Wildcard.isHidden name = false := by decide +kernel
  have hfiles := FileSet.ofDirectory_eq hdirectory fun ending hending => (hendings ending hending).2
  have hend : ¬ Path.EndsInSlash directory := by
    rw [Path.endsInSlash_dotted (by decide)]
    decide
  have hlong : Path.size (FileSet.pathBelow directory ["long-enough.css"]) = 4097 := by
    have hrest : Path.size "/" + Path.size "long-enough.css" = 16 := by decide +kernel
    rw [FileSet.pathBelow, Path.base_of_not_endsInSlash hend,
      Path.ofPieces_singleton, Path.join_of_not_endsInSlash (Tree.ne_empty_of_walk hdirectory)
        (by decide +kernel) hend, Path.size_append, Path.size_append, hsize, Nat.add_assoc, hrest]
  have htimes : t.timesListed _ (["a"] ++ ([] ++ ["long-enough.css"])) = _ :=
    FileSet.timesListed_ofDirectory hdirectory hplain hendings hfiles hnode hshown
  rw [List.nil_append, hlong, if_neg (by decide)] at htimes
  exact ⟨hdirectory, hplain, hendings, hnode, hshown, _, hfiles, htimes, by decide +kernel⟩

end Restyle
