import Restyle.Proofs.Course
import Restyle.Proofs.JoinedPaths
import Restyle.Proofs.Results

/-!
# Files that are found again

Between two trees with the same directories, where apart from one location the same ones are taken
(`Tree.Alike`), a list of patterns stands for the same files, save for one at that location
(`FileSet.mem_resolve`). Wildcards may come upon it nevertheless, as if it were a directory on the
way; but nothing is found below a file (`Stray.not_leads`).
-/

namespace Restyle

open Text

namespace Tree

/-! ## Trees that are alike -/

/-- The same locations are directories, and the same ones are taken save perhaps for one. -/
structure Alike (t : Tree) (but? : Option Location) (t' : Tree) : Prop where
  directories : t.SameDirectories t'
  taken : ∀ l, but? ≠ some l → ((t'.node? l).isSome ↔ (t.node? l).isSome)

variable {t t' : Tree} {but? : Option Location}

theorem Alike.symm (h : t.Alike but? t') : t'.Alike but? t :=
  ⟨h.directories.symm, fun l hl => (h.taken l hl).symm⟩

theorem directoryAt?_eq (h : t.SameDirectories t') (directory : String) :
    t'.directoryAt? directory = t.directoryAt? directory := by
  have hto {t t' : Tree} (h : t.SameDirectories t') {l : Location}
      (hl : t.directoryAt? directory = some l) : t'.directoryAt? directory = some l := by
    rw [directoryAt?] at hl ⊢
    split at hl
    case isTrue hempty =>
      rw [if_pos hempty, h.here]
      exact hl
    case isFalse hempty =>
      rw [if_neg hempty]
      split at hl
      case h_1 hw =>
        cases hl
        rw [walk_of_sameDirectories h hw]
        rfl
      case h_2 => cases hl
  refine Option.ext fun l => ⟨hto h.symm, hto h⟩

theorem isDirectory_eq (h : t.SameDirectories t') (path : String) :
    t'.isDirectory path = t.isDirectory path := by
  have hto {t t' : Tree} (h : t.SameDirectories t') (hdir : t.isDirectory path = true) :
      t'.isDirectory path = true := by
    rw [isDirectory] at hdir ⊢
    split at hdir
    case h_1 hw =>
      rw [walk_of_sameDirectories h hw]
      rfl
    case h_2 => cases hdir
  exact Bool.eq_iff_iff.2 ⟨hto h.symm, hto h⟩

theorem exists_of_isFile {path : String} (h : t.isFile path = true) : t.exists? path = true := by
  rw [isFile] at h
  rw [exists?]
  split at h
  case h_1 hw => rw [hw]
  case h_2 => cases h

theorem exists_of_isDirectory {path : String} (h : t.isDirectory path = true) :
    t.exists? path = true := by
  unfold isDirectory at h
  unfold exists?
  split at h
  · rename_i hwalk
    rw [hwalk]
  · cases h

/-- A file that stands elsewhere is a file in both trees. -/
theorem Alike.isFile (h : t.Alike but? t') {path : String} (hfile : t'.isFile path = true)
    (hpath : t'.location? path ≠ but?) : t.isFile path = true := by
  obtain ⟨l, content, hl, hnode⟩ := isFile_iff.1 hfile
  have hloc := location_mono h.directories.symm hl
  have hbut : but? ≠ some l := fun e => hpath (hl.trans e.symm)
  have hsome : (t.node? l).isSome := (h.taken l hbut).1 (by rw [hnode]; rfl)
  rcases node?_of_location hloc with hold | ⟨old, hold⟩
  · rw [hold] at hsome
    cases hsome
  · exact isFile_iff.2 ⟨l, old, hloc, hold⟩

/-- What is there, and no file, is there in both trees. -/
theorem Alike.exists_of_not_file (h : t.Alike but? t') {path : String}
    (hexists : t'.exists? path = true) (hfile : t'.isFile path = false) : t.exists? path = true := by
  rw [exists?] at hexists
  split at hexists
  case h_1 => cases hexists
  case h_3 => cases hexists
  case h_2 p hfree hw =>
    have hw' := walk_of_sameDirectories h.directories.symm hw
    rw [exists?, hw']
    cases p with
    | file l content =>
      rw [Tree.isFile, hw] at hfile
      cases hfile
    | free l => exact absurd rfl (hfree l)
    | _ => rfl

end Tree

namespace FileSet

open Restyle.Tree

variable {t t' : Tree} {but? : Option Location}

/-! ## One name of a search -/

/-- Whether a name with wildcards stands for the names of a way down from a directory. -/
def Fits (name : String) (names : Location) : Prop :=
  if name = anyDepth then ∀ n ∈ names, Wildcard.isHidden n = false
  else Wildcard.isMagic name = true ∧ ∃ n, names = [n] ∧
    (Wildcard.isHidden name || !Wildcard.isHidden n) = true ∧ Wildcard.isMatch name n = true

/-- What a name of a search leads to: the directory itself, what stands below it at the end of a way
that fits the name, or what the name without wildcards is the path of. -/
inductive Leads (t : Tree) (directoriesOnly : Bool) (name directory : String) : String → Prop
  | here : name = anyDepth ∧ (directory = "" ∨ t.isDirectory directory = true) ∨
      name = "" ∧ t.isDirectory directory = true →
      Leads t directoriesOnly name directory (Path.join directory "")
  | below {l names : Location} {n : Node} : t.directoryAt? directory = some l → names ≠ [] →
      t.node? (l ++ names) = some n → (directoriesOnly = true → n = .directory) →
      Fits name names →
      Leads t directoriesOnly name directory (Path.join directory (Path.ofPieces names))
  | named : name ≠ anyDepth → Wildcard.isMagic name = false → name ≠ "" →
      t.exists? (Path.join directory name) = true →
      Leads t directoriesOnly name directory (Path.join directory name)

theorem leads_of_mem_step {directoriesOnly : Bool} {name directory path : String}
    (h : path ∈ step t directoriesOnly name directory) :
    Leads t directoriesOnly name directory path := by
  rw [step, List.mem_map] at h
  obtain ⟨found, hfound, rfl⟩ := h
  split at hfound
  case isTrue hany =>
    rcases List.mem_append.1 hfound with hfound | hfound
    · split at hfound
      case isTrue hdir =>
        obtain rfl := List.mem_singleton.1 hfound
        exact .here (.inl ⟨hany, by simpa using hdir⟩)
      case isFalse => cases hfound
    · obtain ⟨l, names, n, hl, hne, hnode, hn, hshown, rfl⟩ := mem_descend.1 hfound
      exact .below hl hne hnode hn (by rwa [Fits, if_pos hany])
  case isFalse hany =>
  split at hfound
  case isTrue hmagic =>
    obtain ⟨hlist, hmatch⟩ := List.mem_filter.1 hfound
    obtain ⟨l, n, hl, hnode, hn⟩ := mem_list.1 hlist
    rw [Bool.and_eq_true] at hmatch
    have hfits : Fits name [found] := by
      rw [Fits, if_neg hany]
      exact ⟨hmagic, found, rfl, hmatch⟩
    rw [← Path.ofPieces_singleton found]
    exact .below hl (by simp) hnode hn hfits
  case isFalse hmagic =>
  split at hfound
  case isTrue hempty =>
    split at hfound
    case isTrue hdir =>
      obtain rfl := List.mem_singleton.1 hfound
      exact .here (.inr ⟨hempty, hdir⟩)
    case isFalse => cases hfound
  case isFalse hempty =>
    split at hfound
    case isTrue hexists =>
      obtain rfl := List.mem_singleton.1 hfound
      exact .named hany (by simpa using hmagic) hempty hexists
    case isFalse => cases hfound

theorem mem_step_of_leads {directoriesOnly : Bool} {name directory path : String}
    (h : Leads t directoriesOnly name directory path) :
    path ∈ step t directoriesOnly name directory := by
  rw [step, List.mem_map]
  cases h with
  | here h =>
    refine ⟨"", ?_, rfl⟩
    rcases h with ⟨hany, hdir⟩ | ⟨rfl, hdir⟩
    · rw [if_pos hany]
      exact List.mem_append_left _ (by simp [hdir])
    · rw [if_neg (by decide), if_neg (by decide), if_pos rfl, if_pos hdir]
      exact List.mem_singleton_self ""
  | @below l names n hl hne hnode hn hfits =>
    refine ⟨_, ?_, rfl⟩
    rw [Fits] at hfits
    split at hfits
    case isTrue hany =>
      rw [if_pos hany]
      exact List.mem_append_right _ (mem_descend.2 ⟨l, names, n, hl, hne, hnode, hn, hfits, rfl⟩)
    case isFalse hany =>
      obtain ⟨hmagic, found, rfl, hmatch⟩ := hfits
      rw [if_neg hany, if_pos hmagic, Path.ofPieces_singleton, matching, List.mem_filter,
        Bool.and_eq_true]
      exact ⟨mem_list.2 ⟨l, n, hl, hnode, hn⟩, hmatch⟩
  | named hany hmagic hempty hexists =>
    refine ⟨name, ?_, rfl⟩
    rw [if_neg hany, if_neg (by simp [hmagic]), if_neg hempty, if_pos hexists]
    exact List.mem_singleton_self name

theorem mem_step {directoriesOnly : Bool} {name directory path : String} :
    path ∈ step t directoriesOnly name directory ↔ Leads t directoriesOnly name directory path :=
  ⟨leads_of_mem_step, mem_step_of_leads⟩

/-! ## Strays -/

/-- A path that leads to no directory though a search came upon it on its way. -/
structure Stray (t : Tree) (path : String) : Prop where
  ne_empty : path ≠ ""
  not_directory : t.isDirectory path = false

/-- A file is a stray wherever it is taken for a directory. -/
theorem stray_of_isFile {path : String} (h : t.isFile path = true) : Stray t path := by
  rw [isFile] at h
  split at h
  case h_2 => cases h
  case h_1 l content hw =>
    refine ⟨?_, by rw [isDirectory, hw]⟩
    rintro rfl
    cases hw

/-- A search goes nowhere from a stray. -/
theorem Stray.not_leads {directory name path : String} {directoriesOnly : Bool}
    (h : Stray t directory) (hname : Path.isAbsolute name = false) :
    ¬ Leads t directoriesOnly name directory path := by
  have hdir := h.not_directory
  intro hleads
  cases hleads with
  | here h' => simp [h.ne_empty, hdir] at h'
  | below hl =>
    rw [directoryAt?, if_neg h.ne_empty] at hl
    split at hl
    case h_1 hw =>
      rw [isDirectory, hw] at hdir
      cases hdir
    case h_2 => cases hl
  | named _ _ _ hexists =>
    rw [exists?] at hexists
    cases hw : t.walk (Path.join directory name) with
    | error fault =>
      rw [hw] at hexists
      cases hexists
    | ok p =>
      rw [isDirectory_of_join h.ne_empty hname hw] at hdir
      cases hdir

/-! ## Steps of a search -/

/-- On its way a search comes upon the same directories, or upon a stray. -/
theorem Leads.directories (h : t.Alike but? t') {name directory path : String}
    (hleads : Leads t' true name directory path) :
    Leads t true name directory path ∨ Stray t' path := by
  have hdirs := h.directories
  cases hleads with
  | here hself =>
    rw [isDirectory_eq hdirs] at hself
    exact .inl (.here hself)
  | below hl hne hnode hn hfits =>
    obtain rfl := hn rfl
    rw [directoryAt?_eq hdirs] at hl
    exact .inl (.below hl hne ((hdirs.directory _).1 hnode) (fun _ => rfl) hfits)
  | named hany hmagic hempty hexists =>
    -- Whatever stands under the name, which may be a file.
    cases hfile : t'.isFile (Path.join directory name) with
    | false => exact .inl (.named hany hmagic hempty (h.exists_of_not_file hexists hfile))
    | true => exact .inr (stray_of_isFile hfile)

/-- The last name of a search leads to the same files elsewhere. -/
theorem Leads.files (h : t.Alike but? t') {name directory path : String}
    (hfile : t'.isFile path = true) (hpath : t'.location? path ≠ but?)
    (hleads : Leads t' false name directory path) : Leads t false name directory path := by
  have hdirs := h.directories
  cases hleads with
  | here hself =>
    rw [isDirectory_eq hdirs] at hself
    exact .here hself
  | @below l names n hl hne hnode _ hfits =>
    -- A file that stands below a directory in one tree does so in the other.
    obtain ⟨m, content, hm, hfound⟩ := isFile_iff.1 hfile
    have hnames : ∀ name ∈ names, isLegalName name = true :=
      fun name hname => legal_of_node hnode name (List.mem_append_right _ hname)
    have hw := walk_of_location hm
    rw [placeAt, hfound] at hw
    obtain rfl := location_of_join hl hne hnames hw
    have hbut : but? ≠ some (l ++ names) := fun e => hpath (hm.trans e.symm)
    obtain ⟨n', hnode'⟩ :=
      Option.isSome_iff_exists.1 ((h.taken _ hbut).1 (by rw [hnode]; rfl))
    rw [directoryAt?_eq hdirs] at hl
    exact .below hl hne hnode' (by simp) hfits
  | named hany hmagic hempty _ =>
    exact .named hany hmagic hempty (exists_of_isFile (h.isFile hfile hpath))

/-- A search that begins at the same directories, and perhaps at strays, finds the same files
elsewhere. -/
theorem mem_steps (h : t.Alike but? t') {path : String} (hfile : t'.isFile path = true)
    (hpath : t'.location? path ≠ but?) {names directories directories' : List String}
    (hne : names ≠ []) (hnames : ∀ name ∈ names, Path.isAbsolute name = false)
    (hdirs : ∀ directory ∈ directories', directory ∈ directories ∨ Stray t' directory)
    (hmem : path ∈ steps t' names directories') : path ∈ steps t names directories := by
  induction names generalizing directories directories' with
  | nil => exact absurd rfl hne
  | cons name rest ih =>
    rw [List.forall_mem_cons] at hnames
    -- What a directory leads to comes from no stray.
    have hfrom {directoriesOnly : Bool} {found : String}
        (hfound : found ∈ directories'.flatMap (step t' directoriesOnly name)) :
        ∃ directory ∈ directories, Leads t' directoriesOnly name directory found := by
      obtain ⟨directory, hdir, hstep⟩ := List.mem_flatMap.1 hfound
      refine ⟨directory, (hdirs directory hdir).resolve_right fun hstray => ?_, mem_step.1 hstep⟩
      exact hstray.not_leads hnames.1 (mem_step.1 hstep)
    cases rest with
    | nil =>
      obtain ⟨directory, hdir, hleads⟩ := hfrom hmem
      exact List.mem_flatMap.2 ⟨directory, hdir, mem_step.2 (hleads.files h hfile hpath)⟩
    | cons next rest =>
      refine ih (by simp) hnames.2 (fun found hfound => ?_) hmem
      obtain ⟨directory, hdir, hleads⟩ := hfrom hfound
      exact (hleads.directories h).imp_left
        fun hleads => List.mem_flatMap.2 ⟨directory, hdir, mem_step.2 hleads⟩

/-! ## Patterns -/

theorem dropInnerEmpty_subset (names : List String) : dropInnerEmpty names ⊆ names := by
  fun_induction dropInnerEmpty names with
  | case1 => exact List.Subset.refl _
  | case2 => exact List.Subset.refl _
  | case3 rest hrest ih => exact fun name hname => List.mem_cons_of_mem _ (ih hname)
  | case4 name rest hrest hempty ih => exact List.cons_subset_cons _ ih

/-- No name of a search is a path of its own. -/
theorem isAbsolute_of_mem_names {pattern name : String}
    (h : name ∈ (Search.ofPattern pattern).names) : Path.isAbsolute name = false := by
  have hpieces := (List.dropWhile_sublist _).subset (dropInnerEmpty_subset _ h)
  exact Path.isAbsolute_of_slash_not_mem (Path.slash_not_mem_of_mem_pieces hpieces)

theorem mem_search (h : t.Alike but? t') {pattern path : String} {found' : List String}
    (hfound : search t' pattern = .ok found') (hfile : t'.isFile path = true)
    (hpath : t'.location? path ≠ but?) (hmem : path ∈ found') :
    ∃ found, search t pattern = .ok found ∧ path ∈ found := by
  rw [search] at hfound ⊢
  split at hfound
  case isTrue =>
    cases hfound
    cases hmem
  case isFalse hnames =>
  rw [if_neg hnames]
  split at hfound
  case isTrue => cases hfound
  case isFalse hnul =>
    rw [if_neg hnul]
    cases hfound
    refine ⟨_, rfl, mem_steps h hfile hpath hnames ?_ ?_ hmem⟩
    · exact fun name => isAbsolute_of_mem_names
    · exact fun directory => .inl

theorem mem_regularFiles {paths : List String} {path : String} :
    path ∈ regularFiles t paths ↔ path ∈ paths ∧ t.isFile path = true := by
  rw [regularFiles, sorted, List.mem_mergeSort, List.mem_filter]

theorem mem_ofDirectory {directory : String} {endings files : List String}
    (h : ofDirectory t directory endings = .ok files) {path : String} :
    path ∈ files ↔ t.isFile path = true ∧ ∃ ending ∈ endings, ∃ found,
      search t (Path.join (Path.join directory anyDepth) ("*" ++ ending)) = .ok found ∧
        path ∈ found := by
  rw [ofDirectory] at h
  cases hall : endings.mapM fun ending =>
      search t (Path.join (Path.join directory anyDepth) ("*" ++ ending)) with
  | error fault =>
    rw [hall] at h
    cases h
  | ok founds =>
    rw [hall] at h
    cases h
    obtain ⟨hout, hin⟩ := mem_of_mapM hall
    rw [mem_regularFiles, List.mem_flatten, and_comm]
    refine and_congr_right fun _ => ⟨?_, ?_⟩
    · rintro ⟨found, hfound, hpath⟩
      obtain ⟨ending, hending, hsearch⟩ := hout found hfound
      exact ⟨ending, hending, found, hsearch, hpath⟩
    · rintro ⟨ending, hending, found, hsearch, hpath⟩
      obtain ⟨found', hfound, hsearch'⟩ := hin ending hending
      obtain rfl := Except.ok.inj (hsearch.symm.trans hsearch')
      exact ⟨found, hfound, hpath⟩

/-- A pattern stands for regular files only. -/
theorem isFile_of_mem_ofPattern {pattern path : String} {endings files : List String}
    (h : ofPattern t pattern endings = .ok files) (hmem : path ∈ files) : t.isFile path = true := by
  rw [ofPattern] at h
  split at h
  · cases h
    cases hmem
  split at h
  case isTrue hfile =>
    cases h
    obtain rfl := List.mem_singleton.1 hmem
    exact hfile
  split at h
  · exact ((mem_ofDirectory h).1 hmem).1
  split at h
  · cases h
    cases hmem
  · cases hsearch : search t pattern with
    | error fault =>
      rw [hsearch] at h
      cases h
    | ok found =>
      rw [hsearch] at h
      cases h
      exact (mem_regularFiles.1 hmem).2

/-- What a pattern stands for in one of two trees that are alike it stands for in the other, unless
the pattern itself is the path of the file by which they differ. -/
theorem mem_ofPattern (h : t.Alike but? t') {pattern path : String}
    {endings files files' : List String} (hfiles : ofPattern t pattern endings = .ok files)
    (hfiles' : ofPattern t' pattern endings = .ok files')
    (hbut : ∀ other ∈ files, t.location? other ≠ but?) (hpath : t'.location? path ≠ but?)
    (hmem : path ∈ files') : path ∈ files := by
  rw [ofPattern] at hfiles hfiles'
  split at hfiles'
  case isTrue =>
    cases hfiles'
    cases hmem
  case isFalse hempty =>
  rw [if_neg hempty] at hfiles
  split at hfiles'
  case isTrue hfile' =>
    -- The path of a file.
    cases hfiles'
    obtain rfl := List.mem_singleton.1 hmem
    rw [if_pos (h.isFile hfile' hpath)] at hfiles
    cases hfiles
    exact hmem
  case isFalse hfile' =>
  have hfile : t.isFile pattern = false := by
    rw [Bool.eq_false_iff]
    intro hfile
    rw [if_pos hfile] at hfiles
    cases hfiles
    exact hfile' (h.symm.isFile hfile (hbut pattern (List.mem_singleton_self pattern)))
  rw [if_neg (by rw [hfile]; simp)] at hfiles
  split at hfiles'
  case isTrue hdir =>
    -- A directory.
    rw [isDirectory_eq h.directories] at hdir
    rw [if_pos hdir] at hfiles
    obtain ⟨hisFile, ending, hending, found', hsearch', hfound'⟩ := (mem_ofDirectory hfiles').1 hmem
    obtain ⟨found, hsearch, hfound⟩ := mem_search h hsearch' hisFile hpath hfound'
    exact (mem_ofDirectory hfiles).2
      ⟨h.isFile hisFile hpath, ending, hending, found, hsearch, hfound⟩
  case isFalse hdir =>
  rw [isDirectory_eq h.directories] at hdir
  rw [if_neg hdir] at hfiles
  split at hfiles'
  case isTrue =>
    cases hfiles'
    cases hmem
  case isFalse hexists' =>
  have hexists : ¬ t.exists? pattern = true := fun hexists =>
    hexists' (h.symm.exists_of_not_file hexists hfile)
  rw [if_neg hexists] at hfiles
  cases hsearch' : search t' pattern with
  | error fault =>
    rw [hsearch'] at hfiles'
    cases hfiles'
  | ok found' =>
    rw [hsearch'] at hfiles'
    cases hfiles'
    obtain ⟨hfound', hisFile⟩ := mem_regularFiles.1 hmem
    obtain ⟨found, hsearch, hfound⟩ := mem_search h hsearch' hisFile hpath hfound'
    rw [hsearch] at hfiles
    cases hfiles
    exact mem_regularFiles.2 ⟨hfound, h.isFile hisFile hpath⟩

/-! ## Lists of patterns -/

theorem founds_of_resolve {input : String} {endings files : List String}
    (h : resolve t input endings = .ok files) :
    (∀ path ∈ files, ∃ pattern ∈ patterns input, ∃ found,
      ofPattern t pattern endings = .ok found ∧ path ∈ found) ∧
    ∀ pattern ∈ patterns input, ∃ found, ofPattern t pattern endings = .ok found ∧
      found ⊆ files := by
  have hexplained {pattern : String} {found : List String} {explain : FileFault → Failure}
      (h : (ofPattern t pattern endings).mapError explain = .ok found) :
      ofPattern t pattern endings = .ok found := by
    cases hpattern : ofPattern t pattern endings with
    | error fault =>
      rw [hpattern] at h
      cases h
    | ok found' =>
      rw [hpattern] at h
      exact congrArg Except.ok (Except.ok.inj h)
  rw [resolve] at h
  cases hall : (patterns input).mapM fun pattern =>
      (ofPattern t pattern endings).mapError fun fault =>
        Failure.unexplained (.file pattern fault) with
  | error e =>
    rw [hall] at h
    cases h
  | ok founds =>
    rw [hall] at h
    cases h
    obtain ⟨hout, hin⟩ := mem_of_mapM hall
    refine ⟨fun path hpath => ?_, fun pattern hpattern => ?_⟩
    · obtain ⟨found, hfound, hmem⟩ := List.mem_flatten.1 hpath
      obtain ⟨pattern, hpattern, hof⟩ := hout found hfound
      exact ⟨pattern, hpattern, found, hexplained hof, hmem⟩
    · obtain ⟨found, hfound, hof⟩ := hin pattern hpattern
      exact ⟨found, hexplained hof, fun path hpath => List.mem_flatten.2 ⟨found, hfound, hpath⟩⟩

theorem isFile_of_mem_resolve {input path : String} {endings files : List String}
    (h : resolve t input endings = .ok files) (hmem : path ∈ files) : t.isFile path = true := by
  obtain ⟨pattern, -, found, hfound, hin⟩ := (founds_of_resolve h).1 path hmem
  exact isFile_of_mem_ofPattern hfound hin

/-- A list of patterns that stands for no file at the location by which two trees differ stands for
the same files in both. -/
theorem mem_resolve (h : t.Alike but? t') {input path : String} {endings files files' : List String}
    (hfiles : resolve t input endings = .ok files)
    (hfiles' : resolve t' input endings = .ok files')
    (hbut : ∀ other ∈ files, t.location? other ≠ but?)
    (hbut' : ∀ other ∈ files', t'.location? other ≠ but?) : path ∈ files' ↔ path ∈ files := by
  have hto {t t' : Tree} (h : t.Alike but? t') {files files' : List String}
      (hfiles : resolve t input endings = .ok files)
      (hfiles' : resolve t' input endings = .ok files')
      (hbut : ∀ other ∈ files, t.location? other ≠ but?)
      (hbut' : ∀ other ∈ files', t'.location? other ≠ but?) (hmem : path ∈ files') :
      path ∈ files := by
    obtain ⟨pattern, hpattern, found', hof', hin⟩ := (founds_of_resolve hfiles').1 path hmem
    obtain ⟨found, hof, hsub⟩ := (founds_of_resolve hfiles).2 pattern hpattern
    exact hsub (mem_ofPattern h hof hof' (fun other hother => hbut other (hsub hother))
      (hbut' path hmem) hin)
  exact ⟨hto h hfiles hfiles' hbut hbut', hto h.symm hfiles' hfiles hbut' hbut⟩

end FileSet

end Restyle
