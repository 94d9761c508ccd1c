import Mathlib.Algebra.BigOperators.Group.Finset.Basic
import Mathlib.Algebra.GroupWithZero.Nat
import Restyle.Proofs.Directories

/-!
# How often a pattern lists a file

A pattern is searched name by name, and one name never leads to a path twice (`FileSet.nodup_step`). But
a name that stands for any number of directories leaves it open how many of the names of a path are its
own, so the search comes upon a path once for each way to deal the names of the path to the names of the
search (`FileSet.count_steps`). With at most one such name there is at most one way
(`FileSet.ways_le_one`). A directory is searched for once with each ending, and what is found is put
together as it is: a pattern lists a file as often as there are ways in all its searches
(`pattern_lists_by_ways`).
-/

namespace Restyle

open Text

namespace FileSet

open Restyle.Tree

variable {t : Tree} {directory name path : String} {front back keys : List String}

/-! ## Dealing names -/

/-- Whether the names of a way down can be dealt to a name of a search. -/
def fits (name : String) (keys : List String) : Bool :=
  if name = anyDepth then keys.all fun key => !Wildcard.isHidden key
  else
    match keys with
    | [key] =>
      if Wildcard.isMagic name then
        Path.isStep key && key != ".." && (Wildcard.isHidden name || !Wildcard.isHidden key) &&
          Wildcard.isMatch name key
      else name = key
    | _ => false

/-- The number of ways to deal names, at least one, to the names of a search. Each name of the search
gets the next few, and the last one all that are left, of which there must be some. -/
def ways : List String → List String → Nat
  | [], _ => 0
  | [name], keys => if fits name keys then 1 else 0
  | name :: rest, keys =>
    ∑ i ∈ Finset.range keys.length, if fits name (keys.take i) then ways rest (keys.drop i) else 0

theorem ways_cons {rest : List String} (hrest : rest ≠ []) (name : String) (keys : List String) :
    ways (name :: rest) keys = ∑ i ∈ Finset.range keys.length,
      if fits name (keys.take i) then ways rest (keys.drop i) else 0 := by
  cases rest with
  | nil => exact absurd rfl hrest
  | cons next rest => rfl

theorem length_of_fits (hany : name ≠ anyDepth) (h : fits name keys = true) : keys.length = 1 := by
  unfold fits at h
  rw [if_neg hany] at h
  split at h
  · rfl
  · cases h

/-- Without a name for any number of directories each name of a search gets one. -/
theorem length_of_ways {names : List String} (hany : anyDepth ∉ names) (h : ways names keys ≠ 0) :
    keys.length = names.length := by
  induction names generalizing keys with
  | nil => exact absurd rfl h
  | cons name rest ih =>
    rw [List.mem_cons, not_or] at hany
    by_cases hrest : rest = []
    · subst hrest
      exact length_of_fits (Ne.symm hany.1) (by simpa [ways] using h)
    rw [ways_cons hrest] at h
    obtain ⟨i, hi, hterm⟩ := Finset.exists_ne_zero_of_sum_ne_zero h
    rw [Finset.mem_range] at hi
    rw [ite_ne_right_iff] at hterm
    have hone := length_of_fits (Ne.symm hany.1) hterm.1
    have hmore := ih hany.2 hterm.2
    rw [List.length_take] at hone
    rw [List.length_drop] at hmore
    rw [List.length_cons]
    omega

theorem sum_le_one {s : Finset Nat} {f : Nat → Nat} (only : Nat) (hone : ∀ i ∈ s, f i ≤ 1)
    (hzero : ∀ i ∈ s, f i ≠ 0 → i = only) : ∑ i ∈ s, f i ≤ 1 := by
  by_cases hmem : only ∈ s
  · rw [Finset.sum_eq_single_of_mem only hmem fun i hi hne => by_contra fun h => hne (hzero i hi h)]
    exact hone only hmem
  · rw [Finset.sum_eq_zero fun i hi => by_contra fun h => hmem (hzero i hi h ▸ hi)]
    exact Nat.zero_le 1

/-- With one name for any number of directories, or none, there is at most one way. -/
theorem ways_le_one {names : List String} (h : names.count anyDepth ≤ 1) : ways names keys ≤ 1 := by
  induction names generalizing keys with
  | nil => exact Nat.zero_le 1
  | cons name rest ih =>
    by_cases hrest : rest = []
    · rw [hrest, ways]
      split <;> simp
    rw [List.count_cons] at h
    -- There is one way for what follows, and one number of names that it can get.
    obtain ⟨only, honly⟩ : ∃ only, ∀ i < keys.length, fits name (keys.take i) = true →
        ways rest (keys.drop i) ≠ 0 → i = only := by
      by_cases hany : name = anyDepth
      · have hnone : anyDepth ∉ rest := by
          rw [if_pos (by simpa using hany)] at h
          exact List.count_eq_zero.1 (by omega)
        refine ⟨keys.length - rest.length, fun i hi _ hne => ?_⟩
        have hlength := length_of_ways hnone hne
        rw [List.length_drop] at hlength
        omega
      · refine ⟨1, fun i hi hfits _ => ?_⟩
        have hlength := length_of_fits hany hfits
        rw [List.length_take] at hlength
        omega
    rw [ways_cons hrest]
    refine sum_le_one only (fun i _ => ?_) fun i hi hne => ?_
    · split
      · exact ih (Nat.le_trans (Nat.le_add_right _ _) h)
      · exact Nat.zero_le 1
    · rw [ite_ne_right_iff] at hne
      exact honly i (Finset.mem_range.1 hi) hne.1 hne.2

/-! ## The way of a path -/

/-- Names behind a path that was joined already. -/
theorem join_append (directory : String) (hfront : ∀ key ∈ front, Path.IsName key)
    (hback : ∀ key ∈ back, Path.IsName key) (hne : back ≠ []) :
    Path.join (Path.join directory (Path.ofPieces front)) (Path.ofPieces back) =
      Path.join directory (Path.ofPieces (front ++ back)) := by
  rw [Path.join_join _ (Path.isAbsolute_ofPieces hfront) (Path.isAbsolute_ofPieces hback),
    Path.join_ofPieces hfront hback hne]

theorem eq_of_join {keys' : List String} (h : ∀ key ∈ keys, Path.IsName key)
    (h' : ∀ key ∈ keys', Path.IsName key)
    (heq : Path.join directory (Path.ofPieces keys) = Path.join directory (Path.ofPieces keys')) :
    keys = keys' :=
  Path.eq_of_ofPieces h h' (Path.join_injective directory (Path.isAbsolute_ofPieces h)
    (Path.isAbsolute_ofPieces h') heq)

/-- A file below a directory is reached from where the directory is. -/
theorem exists_walk_of_isFile (hkeys : ∀ key ∈ keys, Path.IsName key) (hne : keys ≠ [])
    (hfile : t.isFile (Path.join directory (Path.ofPieces keys)) = true) :
    (directory = "" ∨ t.isDirectory directory = true) ∧ ∃ l m content,
      t.directoryAt? directory = some l ∧ t.walkFrom l keys = .ok (.file m content) := by
  have hpieces := Path.pieces_ofPieces hne fun key hkey => (hkeys key hkey).slash_not_mem
  have hrelative := Path.isAbsolute_ofPieces hkeys
  obtain ⟨m, content, hlocation, hnode⟩ := isFile_iff.1 hfile
  have hwalk := walk_of_location hlocation
  rw [placeAt, hnode] at hwalk
  by_cases hempty : directory = ""
  · rw [hempty, Path.join_empty] at hwalk
    obtain ⟨-, -, -, hwalk⟩ := walk_eq_ok_iff.1 hwalk
    rw [hpieces, t.start_relative hrelative] at hwalk
    exact ⟨.inl hempty, t.here, m, content, by rw [directoryAt?, if_pos hempty], hwalk⟩
  · obtain ⟨l, hl, hwalk⟩ := walk_join hempty hrelative hwalk
    rw [hpieces] at hwalk
    exact ⟨.inr (by rw [Tree.isDirectory, hl]), l, m, content, directoryAt?_of_walk hl, hwalk⟩

/-- On the way down to a file stand directories. -/
theorem exists_node_of_walkFrom {l m : Location} {content : Octets} (hne : front ≠ [])
    (hfront : ∀ key ∈ front, Path.isStep key = true ∧ key ≠ "..")
    (h : t.walkFrom l (front ++ back) = .ok (.file m content)) :
    ∃ n, t.node? (l ++ front) = some n ∧ (back ≠ [] → n = .directory) := by
  induction front generalizing l with
  | nil => exact absurd rfl hne
  | cons key front ih =>
    obtain ⟨⟨hstep, hup⟩, hfront⟩ := List.forall_mem_cons.1 hfront
    rw [List.cons_append, walkFrom, if_neg (by rw [hstep]; simp), if_neg hup] at h
    split at h
    · cases h
    split at h
    · rename_i hnode
      by_cases hlast : front = []
      · rw [hlast]
        exact ⟨.directory, hnode, fun _ => rfl⟩
      · obtain ⟨n, hn, hdirectory⟩ := ih hlast hfront h
        rw [List.append_assoc, List.singleton_append] at hn
        exact ⟨n, hn, hdirectory⟩
    split at h
    · rename_i hlast
      obtain ⟨rfl, rfl⟩ := List.append_eq_nil_iff.1 hlast
      obtain ⟨hnode, -⟩ := node?_of_placeAt (Except.ok.inj h)
      exact ⟨.file content, hnode, fun hback => absurd rfl hback⟩
    · split at h <;> cases h

/-! ## One name of a search -/

theorem isStep_of_legal {key : String} (h : isLegalName key = true) :
    Path.isStep key = true ∧ key ≠ ".." :=
  ⟨(isDown_of_legal h).1, (isDown_of_legal h).2.1⟩

/-- A name that is not hidden leads down. -/
theorem isStep_of_shown {key : String} (hname : Path.IsName key)
    (h : Wildcard.isHidden key = false) : Path.isStep key = true ∧ key ≠ ".." := by
  refine ⟨?_, ?_⟩
  · rw [Path.isStep, Bool.and_eq_true, bne_iff_ne, bne_iff_ne]
    refine ⟨hname.ne_empty, ?_⟩
    rintro rfl
    cases h
  · rintro rfl
    cases h

theorem fits_of_fits (hlegal : ∀ key ∈ keys, isLegalName key = true) (h : Fits name keys) :
    fits name keys = true := by
  unfold Fits at h
  unfold fits
  split at h
  · rename_i hany
    rw [if_pos hany, List.all_eq_true]
    intro key hkey
    rw [h key hkey]
    rfl
  · rename_i hany
    obtain ⟨hmagic, key, rfl, hshown, hmatch⟩ := h
    obtain ⟨hstep, hup⟩ := isStep_of_legal (hlegal key List.mem_cons_self)
    rw [if_neg hany]
    simp only [hmagic, if_true, hstep, hshown, hmatch, bne_iff_ne.2 hup, Bool.and_self]

/-- The names that a name of a search leads to are dealt to it. -/
theorem fits_of_mem_step {directoriesOnly : Bool} (hslash : Path.slash ∉ name.toList)
    (hfront : ∀ key ∈ front, Path.IsName key) (hempty : name = "" → front ≠ [])
    (h : Path.join directory (Path.ofPieces front) ∈ step t directoriesOnly name directory) :
    fits name front = true := by
  rw [mem_step] at h
  generalize hpath : Path.join directory (Path.ofPieces front) = path at h
  cases h with
  | here hself =>
    have hnil : Path.ofPieces front = Path.ofPieces [] :=
      Path.join_injective directory (Path.isAbsolute_ofPieces hfront) rfl hpath
    have hfront_nil : front = [] := Path.eq_of_ofPieces hfront (by simp) hnil
    rcases hself with ⟨rfl, -⟩ | ⟨hname, -⟩
    · rw [hfront_nil]
      rfl
    · exact absurd hfront_nil (hempty hname)
  | @below l names n _ _ hnode _ hfits =>
    have hlegal : ∀ key ∈ names, isLegalName key = true :=
      fun key hkey => legal_of_node hnode key (List.mem_append_right l hkey)
    rw [eq_of_join hfront (fun key hkey => isName_of_legal (hlegal key hkey)) hpath]
    exact fits_of_fits hlegal hfits
  | named hany hmagic hname =>
    have hone : ∀ key ∈ [name], Path.IsName key := by
      simpa using (⟨hname, hslash⟩ : Path.IsName name)
    rw [← Path.ofPieces_singleton name] at hpath
    rw [eq_of_join hfront hone hpath, fits, if_neg hany, hmagic]
    simp

/-- On the way to a file there is something where its first name leads. -/
theorem exists_of_isFile_below (hname : Path.IsName name) (hback : ∀ key ∈ back, Path.IsName key)
    (hfile : t.isFile (Path.join directory (Path.ofPieces (name :: back))) = true) :
    t.exists? (Path.join directory name) = true := by
  by_cases hlast : back = []
  · rw [hlast, Path.ofPieces_singleton] at hfile
    exact exists_of_isFile hfile
  have hone : ∀ key ∈ [name], Path.IsName key := by simpa using hname
  rw [← List.singleton_append, ← join_append directory hone hback hlast,
    Path.ofPieces_singleton] at hfile
  obtain ⟨hthere, -⟩ := exists_walk_of_isFile hback hlast hfile
  refine exists_of_isDirectory (hthere.resolve_left fun hnone => ?_)
  by_cases hd : directory = ""
  · rw [hd, Path.join_empty] at hnone
    exact hname.ne_empty hnone
  · exact Path.join_ne_empty hd (Path.isAbsolute_of_slash_not_mem hname.slash_not_mem) hnone

/-- A name of a search leads, on the way to a file, to the names that are dealt to it. -/
theorem mem_step_of_fits {directoriesOnly : Bool} (hfront : ∀ key ∈ front, Path.IsName key)
    (hback : ∀ key ∈ back, Path.IsName key) (hne : front ++ back ≠ [])
    (honly : directoriesOnly = true → back ≠ [])
    (hfile : t.isFile (Path.join directory (Path.ofPieces (front ++ back))) = true)
    (h : fits name front = true) :
    Path.join directory (Path.ofPieces front) ∈ step t directoriesOnly name directory := by
  obtain ⟨hdirectory, l, m, content, hl, hwalk⟩ :=
    exists_walk_of_isFile (List.forall_mem_append.2 ⟨hfront, hback⟩) hne hfile
  have hbelow (hnil : front ≠ []) (hsteps : ∀ key ∈ front, Path.isStep key = true ∧ key ≠ "..")
      (hfits : Fits name front) :
      Leads t directoriesOnly name directory (Path.join directory (Path.ofPieces front)) := by
    obtain ⟨n, hnode, hn⟩ := exists_node_of_walkFrom hnil hsteps hwalk
    exact .below hl hnil hnode (fun hd => hn (honly hd)) hfits
  rw [mem_step]
  unfold fits at h
  split at h
  · rename_i hany
    by_cases hnil : front = []
    · rw [hnil]
      exact .here (.inl ⟨hany, hdirectory⟩)
    · have hshown : ∀ key ∈ front, Wildcard.isHidden key = false := by simpa using h
      refine hbelow hnil (fun key hkey => isStep_of_shown (hfront key hkey) (hshown key hkey)) ?_
      rwa [Fits, if_pos hany]
  rename_i hany
  split at h
  · rename_i key
    split at h
    · rename_i hmagic
      simp only [Bool.and_eq_true, bne_iff_ne] at h
      refine hbelow (by simp) (by simpa using h.1.1) ?_
      rw [Fits, if_neg hany]
      exact ⟨hmagic, key, rfl, h.1.2, h.2⟩
    · rename_i hmagic
      obtain rfl : name = key := of_decide_eq_true h
      have hname := hfront name List.mem_cons_self
      rw [Path.ofPieces_singleton]
      exact .named hany (by simpa using hmagic) hname.ne_empty
        (exists_of_isFile_below hname hback hfile)
  · cases h

/-- The names that stand before those of a file are dealt to a name of a search exactly if it leads
there. -/
theorem mem_step_iff_fits {directoriesOnly : Bool} (hslash : Path.slash ∉ name.toList)
    (hfront : ∀ key ∈ front, Path.IsName key) (hback : ∀ key ∈ back, Path.IsName key)
    (hne : front ++ back ≠ []) (hempty : name = "" → front ≠ [])
    (honly : directoriesOnly = true → back ≠ [])
    (hfile : t.isFile (Path.join directory (Path.ofPieces (front ++ back))) = true) :
    Path.join directory (Path.ofPieces front) ∈ step t directoriesOnly name directory ↔
      fits name front = true :=
  ⟨fits_of_mem_step hslash hfront hempty, mem_step_of_fits hfront hback hne honly hfile⟩

/-- A name of a search leads to names below a directory. -/
theorem exists_front_of_mem_step {directoriesOnly : Bool} (hslash : Path.slash ∉ name.toList)
    (h : path ∈ step t directoriesOnly name directory) :
    ∃ front, (∀ key ∈ front, Path.IsName key) ∧ path = Path.join directory (Path.ofPieces front) := by
  cases mem_step.1 h with
  | here => exact ⟨[], by simp, rfl⟩
  | @below l names n _ _ hnode =>
    exact ⟨names, fun key hkey =>
      isName_of_legal (legal_of_node hnode key (List.mem_append_right l hkey)), rfl⟩
  | named _ _ hname =>
    exact ⟨[name], by simpa using (⟨hname, hslash⟩ : Path.IsName name),
      by rw [Path.ofPieces_singleton]⟩

/-! ## All names of a search -/

/-- The names of a search: none holds a slash, and only the last can be empty. -/
structure IsSearch (names : List String) : Prop where
  slash_not_mem : ∀ name ∈ names, Path.slash ∉ name.toList
  ne_empty : ∀ name ∈ names.dropLast, name ≠ ""

theorem IsSearch.tail {rest : List String} (h : IsSearch (name :: rest)) : IsSearch rest := by
  refine ⟨fun n hn => h.slash_not_mem n (List.mem_cons_of_mem name hn), fun n hn => ?_⟩
  cases rest with
  | nil => cases hn
  | cons next rest => exact h.ne_empty n (List.mem_cons_of_mem name hn)

theorem IsSearch.head_ne_empty {rest : List String} (h : IsSearch (name :: rest))
    (hrest : rest ≠ []) : name ≠ "" := by
  apply h.ne_empty
  rw [List.dropLast_cons_of_ne_nil hrest]
  exact List.mem_cons_self

theorem steps_cons {rest : List String} (hrest : rest ≠ []) (name : String)
    (directories : List String) :
    steps t (name :: rest) directories = steps t rest (directories.flatMap (step t true name)) := by
  cases rest with
  | nil => exact absurd rfl hrest
  | cons next rest => rfl

/-- A search goes its way from each directory. -/
theorem steps_eq_flatMap {names : List String} (hne : names ≠ []) (directories : List String) :
    steps t names directories = directories.flatMap fun directory => steps t names [directory] := by
  induction names generalizing directories with
  | nil => exact absurd rfl hne
  | cons name rest ih =>
    by_cases hrest : rest = []
    · subst hrest
      simp only [steps, List.flatMap_cons, List.flatMap_nil, List.append_nil]
    · rw [steps_cons hrest, ih hrest, List.flatMap_assoc]
      refine List.flatMap_congr fun directory _ => ?_
      rw [steps_cons hrest, List.flatMap_cons, List.flatMap_nil, List.append_nil, ← ih hrest]

theorem steps_single {rest : List String} (hrest : rest ≠ []) (name directory : String) :
    steps t (name :: rest) [directory] =
      (step t true name directory).flatMap fun looked => steps t rest [looked] := by
  rw [steps_cons hrest, List.flatMap_cons, List.flatMap_nil, List.append_nil, steps_eq_flatMap hrest]

/-- A search leads to names below the directory that it starts from. -/
theorem exists_keys_of_mem_steps {names : List String} (hne : names ≠ []) (hnames : IsSearch names)
    (h : path ∈ steps t names [directory]) (hfile : t.isFile path = true) :
    ∃ keys, keys ≠ [] ∧ (∀ key ∈ keys, Path.IsName key) ∧
      path = Path.join directory (Path.ofPieces keys) := by
  induction names generalizing directory with
  | nil => exact absurd rfl hne
  | cons name rest ih =>
    have hslash := hnames.slash_not_mem name List.mem_cons_self
    by_cases hrest : rest = []
    · subst hrest
      simp only [steps, List.flatMap_cons, List.flatMap_nil, List.append_nil] at h
      obtain ⟨keys, hkeys, rfl⟩ := exists_front_of_mem_step hslash h
      refine ⟨keys, ?_, hkeys, rfl⟩
      rintro rfl
      have hnone := not_isFile_join_empty t directory
      rw [show Path.ofPieces [] = "" from rfl, hnone] at hfile
      cases hfile
    · rw [steps_single hrest, List.mem_flatMap] at h
      obtain ⟨looked, hlooked, h⟩ := h
      obtain ⟨front, hfront, rfl⟩ := exists_front_of_mem_step hslash hlooked
      obtain ⟨back, hback_ne, hback, rfl⟩ := ih hrest hnames.tail h
      exact ⟨front ++ back, by simp [hback_ne], List.forall_mem_append.2 ⟨hfront, hback⟩,
        join_append directory hfront hback hback_ne⟩

/-- A sum over a list without repeats, where only the items of a family count. -/
theorem sum_map_eq_sum {α : Type} [DecidableEq α] {items : List α} (hnodup : items.Nodup)
    {s : Finset Nat} {g : Nat → α} {f : α → Nat} (hinj : ∀ i ∈ s, ∀ j ∈ s, g i = g j → i = j)
    (hmem : ∀ i ∈ s, g i ∈ items) (hzero : ∀ x ∈ items, f x ≠ 0 → ∃ i ∈ s, g i = x) :
    (items.map f).sum = ∑ i ∈ s, f (g i) := by
  have hsubset : s.image g ⊆ items.toFinset := by
    intro x hx
    obtain ⟨i, hi, rfl⟩ := Finset.mem_image.1 hx
    exact List.mem_toFinset.2 (hmem i hi)
  calc (items.map f).sum
      = ∑ x ∈ items.toFinset, f x := (List.sum_toFinset f hnodup).symm
    _ = ∑ x ∈ s.image g, f x := by
        refine (Finset.sum_subset hsubset fun x hx hout => ?_).symm
        by_contra hne
        exact hout (Finset.mem_image.2 (hzero x (List.mem_toFinset.1 hx) hne))
    _ = ∑ i ∈ s, f (g i) := Finset.sum_image fun i hi j hj heq => hinj i hi j hj heq

/-- A search comes upon a file once for each way to deal the names of its path. -/
theorem count_steps {names : List String} (hne : names ≠ []) (hnames : IsSearch names)
    (hkeys : ∀ key ∈ keys, Path.IsName key) (hkeys_ne : keys ≠ [])
    (hfile : t.isFile (Path.join directory (Path.ofPieces keys)) = true) :
    (steps t names [directory]).count (Path.join directory (Path.ofPieces keys)) =
      ways names keys := by
  induction names generalizing directory keys with
  | nil => exact absurd rfl hne
  | cons name rest ih =>
    have hslash := hnames.slash_not_mem name List.mem_cons_self
    have hnodup (directoriesOnly : Bool) : (step t directoriesOnly name directory).Nodup :=
      nodup_step (Path.isAbsolute_of_slash_not_mem hslash)
    by_cases hrest : rest = []
    · subst hrest
      have hmem : Path.join directory (Path.ofPieces keys) ∈ step t false name directory ↔
          fits name keys = true := by
        have hnone : ∀ key ∈ ([] : List String), Path.IsName key := by simp
        refine mem_step_iff_fits hslash hkeys hnone ?_ (fun _ => hkeys_ne) (by simp) ?_
        all_goals rwa [List.append_nil]
      simp only [steps, List.flatMap_cons, List.flatMap_nil, List.append_nil, ways]
      by_cases hfits : fits name keys = true
      · rw [if_pos hfits, List.count_eq_one_of_mem (hnodup false) (hmem.2 hfits)]
      · rw [if_neg hfits, List.count_eq_zero.2 fun h => hfits (hmem.1 h)]
    -- Only the directories on the way to the file count.
    have htake {i : Nat} : ∀ key ∈ keys.take i, Path.IsName key :=
      fun key hkey => hkeys key (List.mem_of_mem_take hkey)
    have hdrop {i : Nat} : ∀ key ∈ keys.drop i, Path.IsName key :=
      fun key hkey => hkeys key (List.mem_of_mem_drop hkey)
    have hdrop_ne {i : Nat} (hi : i < keys.length) : keys.drop i ≠ [] := by simpa using hi
    let way (i : Nat) := Path.join directory (Path.ofPieces (keys.take i))
    have hmem {i : Nat} (hi : i < keys.length) :
        way i ∈ step t true name directory ↔ fits name (keys.take i) = true := by
      refine mem_step_iff_fits hslash htake (hdrop (i := i)) ?_
        (fun hempty => absurd hempty (hnames.head_ne_empty hrest)) (fun _ => hdrop_ne hi) ?_
      all_goals rwa [List.take_append_drop]
    have hway {i : Nat} (hi : i < keys.length) : Path.join (way i) (Path.ofPieces (keys.drop i)) =
        Path.join directory (Path.ofPieces keys) := by
      rw [join_append directory htake hdrop (hdrop_ne hi), List.take_append_drop]
    let dealt := (Finset.range keys.length).filter fun i => fits name (keys.take i) = true
    have hdealt {i : Nat} : i ∈ dealt ↔ i < keys.length ∧ fits name (keys.take i) = true := by
      rw [Finset.mem_filter, Finset.mem_range]
    rw [steps_single hrest, List.count_flatMap, ways_cons hrest, ← Finset.sum_filter]
    refine (sum_map_eq_sum (hnodup true) (s := dealt) (g := way) ?_ ?_ ?_).trans ?_
    · intro i hi j hj heq
      have hlength := congrArg List.length (eq_of_join htake htake heq)
      rw [List.length_take, List.length_take] at hlength
      have hlt := (hdealt.1 hi).1
      have hlt' := (hdealt.1 hj).1
      omega
    · exact fun i hi => (hmem (hdealt.1 hi).1).2 (hdealt.1 hi).2
    · intro looked hlooked hcount
      obtain ⟨front, hfront, rfl⟩ := exists_front_of_mem_step hslash hlooked
      have hfound := List.count_pos_iff.1 (Nat.pos_of_ne_zero hcount)
      obtain ⟨back, hback_ne, hback, heq⟩ :=
        exists_keys_of_mem_steps hrest hnames.tail hfound hfile
      rw [join_append directory hfront hback hback_ne] at heq
      obtain rfl := eq_of_join hkeys (List.forall_mem_append.2 ⟨hfront, hback⟩) heq
      have hlt : front.length < (front ++ back).length := by
        rw [List.length_append]
        exact Nat.lt_add_of_pos_right (List.length_pos_iff.2 hback_ne)
      have hlooked_eq : way front.length = Path.join directory (Path.ofPieces front) := by
        show Path.join directory (Path.ofPieces ((front ++ back).take front.length)) = _
        rw [List.take_left]
      exact ⟨front.length, hdealt.2 ⟨hlt, (hmem hlt).1 (hlooked_eq ▸ hlooked)⟩, hlooked_eq⟩
    · refine Finset.sum_congr rfl fun i hi => ?_
      have hlt := (hdealt.1 hi).1
      have hcount := ih hrest hnames.tail hdrop (hdrop_ne hlt) ((hway hlt).symm ▸ hfile)
      rwa [hway hlt] at hcount

/-! ## Searches -/

/-- The names of a path behind the directory that a search starts from. -/
def namesBehind? (base path : String) : Option (List String) :=
  (Path.pieces path).tails.find? fun keys =>
    keys ≠ [] && keys.all (· ≠ "") && Path.join base (Path.ofPieces keys) = path

/-- The number of ways to deal the names of a path to the names of a search. -/
def Search.ways (s : Search) (path : String) : Nat :=
  match namesBehind? s.base path with
  | some keys => FileSet.ways s.names keys
  | none => 0

theorem namesBehind?_eq_some_iff {base : String} : namesBehind? base path = some keys ↔
    keys ≠ [] ∧ (∀ key ∈ keys, Path.IsName key) ∧ path = Path.join base (Path.ofPieces keys) := by
  have hsound {keys : List String} (h : namesBehind? base path = some keys) : keys ≠ [] ∧
      (∀ key ∈ keys, Path.IsName key) ∧ path = Path.join base (Path.ofPieces keys) := by
    have htest := List.find?_some h
    simp only [Bool.and_eq_true, List.all_eq_true, decide_eq_true_eq] at htest
    have hsuffix := (List.mem_tails _ _).1 (List.mem_of_find?_eq_some h)
    exact ⟨htest.1.1, fun key hkey => ⟨htest.1.2 key hkey,
      Path.slash_not_mem_of_mem_pieces (hsuffix.subset hkey)⟩, htest.2.symm⟩
  refine ⟨hsound, ?_⟩
  rintro ⟨hne, hkeys, rfl⟩
  have hpieces := Path.pieces_ofPieces hne fun key hkey => (hkeys key hkey).slash_not_mem
  have hsuffix : keys <:+ Path.pieces (Path.join base (Path.ofPieces keys)) := by
    by_cases hbase : base = ""
    · rw [hbase, Path.join_empty, hpieces]
    · rw [Path.pieces_join hbase (Path.isAbsolute_ofPieces hkeys), hpieces]
      exact List.suffix_append _ _
  cases hfind : namesBehind? base (Path.join base (Path.ofPieces keys)) with
  | none =>
    have hno := List.find?_eq_none.1 hfind keys ((List.mem_tails _ _).2 hsuffix)
    simp only [Bool.and_eq_true, List.all_eq_true, decide_eq_true_eq] at hno
    exact absurd ⟨⟨hne, fun key hkey => (hkeys key hkey).ne_empty⟩, trivial⟩ hno
  | some found =>
    obtain ⟨-, hfound, heq⟩ := hsound hfind
    rw [eq_of_join hkeys hfound heq]

theorem isSearch_ofPattern (pattern : String) : IsSearch (Search.ofPattern pattern).names := by
  refine ⟨fun name hname => ?_, fun name hname => ?_⟩
  · exact Path.slash_not_mem_of_mem_pieces
      ((List.dropWhile_sublist _).subset (dropInnerEmpty_subset _ hname))
  · unfold Search.ofPattern at hname
    dsimp only at hname
    generalize (Path.pieces pattern).dropWhile _ = names at hname
    rcases names.eq_nil_or_concat' with rfl | ⟨front, last, rfl⟩
    · cases hname
    · rw [dropInnerEmpty_concat, List.dropLast_concat, List.mem_filter] at hname
      exact of_decide_eq_true hname.2

/-- A search that has no names finds nothing in any way. -/
theorem Search.ways_eq_zero {s : Search} (h : s.names = []) (path : String) : s.ways path = 0 := by
  unfold Search.ways
  rw [h]
  split <;> rfl

/-- A search finds a file once for each way to deal the names of its path. -/
theorem count_search {pattern : String} {found : List String} (h : search t pattern = .ok found)
    (hfile : t.isFile path = true) : found.count path = (Search.ofPattern pattern).ways path := by
  rw [search] at h
  split at h
  · rename_i hnames
    cases h
    rw [Search.ways_eq_zero hnames]
    rfl
  rename_i hnames
  split at h
  · cases h
  cases h
  have hsearch := isSearch_ofPattern pattern
  unfold Search.ways
  cases hbehind : namesBehind? (Search.ofPattern pattern).base path with
  | none =>
    refine List.count_eq_zero.2 fun hfound => ?_
    obtain ⟨keys, hne, hkeys, hpath⟩ := exists_keys_of_mem_steps hnames hsearch hfound hfile
    rw [namesBehind?_eq_some_iff.2 ⟨hne, hkeys, hpath⟩] at hbehind
    cases hbehind
  | some keys =>
    obtain ⟨hne, hkeys, rfl⟩ := namesBehind?_eq_some_iff.1 hbehind
    exact count_steps hnames hsearch hkeys hne hfile

/-! ## Patterns -/

theorem count_regularFiles (t : Tree) (paths : List String) (path : String) :
    (regularFiles t paths).count path = if t.isFile path then paths.count path else 0 := by
  have hperm : (regularFiles t paths).Perm (paths.filter t.isFile) := List.mergeSort_perm _ _
  rw [hperm.count_eq]
  split
  · rename_i hfile
    exact List.count_filter hfile
  · rename_i hfile
    exact List.count_eq_zero.2 fun h => hfile (List.mem_filter.1 h).2

/-- The searches for a pattern that is no file: one with each ending if it is a directory, none if it
is the null device, and otherwise one for the pattern itself. -/
def searches (t : Tree) (pattern : String) (endings : List String) : List Search :=
  if t.isDirectory pattern then
    endings.map fun ending =>
      Search.ofPattern (Path.join (Path.join pattern anyDepth) ("*" ++ ending))
  else if t.exists? pattern then []
  else [Search.ofPattern pattern]

theorem count_ofDirectory {directory : String} {endings files : List String}
    (h : ofDirectory t directory endings = .ok files) (path : String) :
    files.count path = if t.isFile path then (endings.map fun ending => (Search.ofPattern
      (Path.join (Path.join directory anyDepth) ("*" ++ ending))).ways path).sum else 0 := by
  obtain ⟨founds, hfounds, h⟩ := exists_of_bind_ok h
  cases h
  rw [count_regularFiles]
  split
  · rename_i hfile
    rw [List.count_flatten, map_of_mapM (fun ending found hfound => count_search hfound hfile) hfounds]
  · rfl

/-- A pattern that is no file lists a path as often as there are ways in its searches. -/
theorem count_ofPattern {pattern : String} {endings files : List String}
    (h : ofPattern t pattern endings = .ok files) (hno : t.isFile pattern = false) (path : String) :
    files.count path =
      if t.isFile path then ((searches t pattern endings).map (·.ways path)).sum else 0 := by
  unfold ofPattern at h
  split at h
  · rename_i hempty
    subst hempty
    cases h
    have hnone : (Search.ofPattern "").ways path = 0 := Search.ways_eq_zero (by decide) path
    have hexists : t.exists? "" = false := rfl
    have hdirectory : t.isDirectory "" = false := rfl
    simp [searches, hdirectory, hexists, hnone]
  rw [hno, if_neg Bool.false_ne_true] at h
  unfold searches
  split at h
  · rename_i hdirectory
    rw [count_ofDirectory h, if_pos hdirectory, List.map_map]
    rfl
  rename_i hdirectory
  rw [if_neg hdirectory]
  split at h
  · rename_i hexists
    cases h
    rw [if_pos hexists]
    simp
  · rename_i hexists
    obtain ⟨found, hfound, h⟩ := exists_of_bind_ok h
    cases h
    rw [count_regularFiles, if_neg hexists]
    split
    · rename_i hfile
      simp [count_search hfound hfile]
    · rfl

/-- Among searches with at most one way, of which no two have one, there is at most one way. -/
theorem sum_map_le_one {α : Type} {items : List α} {f : α → Nat} (hone : ∀ x ∈ items, f x ≤ 1)
    (hpair : items.Pairwise fun x y => f x = 0 ∨ f y = 0) : (items.map f).sum ≤ 1 := by
  induction items with
  | nil => exact Nat.zero_le 1
  | cons x items ih =>
    rw [List.forall_mem_cons] at hone
    rw [List.pairwise_cons] at hpair
    rw [List.map_cons, List.sum_cons]
    by_cases hx : f x = 0
    · rw [hx, Nat.zero_add]
      exact ih hone.2 hpair.2
    · have hrest : (items.map f).sum = 0 :=
        List.sum_eq_zero (List.forall_mem_map.2 fun y hy => (hpair.1 y hy).resolve_left hx)
      rw [hrest]
      exact hone.1

end FileSet

/-- **Repeats.** A pattern that is a file lists this file once. Any other pattern lists a file as often
as there are ways to deal the names of its path to the names of the searches for the pattern, and lists
nothing but files. A search in which there is at most one name for any number of directories has at
most one way. So nothing is listed twice where all searches are such, unless a file is found by two of
them: it has two of the endings. -/
theorem pattern_lists_by_ways {t : Tree} {pattern : String} {endings files : List String}
    (h : FileSet.ofPattern t pattern endings = .ok files) :
    let searches := FileSet.searches t pattern endings
    (t.isFile pattern = true → files = [pattern]) ∧
    (t.isFile pattern = false → ∀ path, files.count path =
      if t.isFile path then (searches.map (·.ways path)).sum else 0) ∧
    (∀ s ∈ searches, s.names.count FileSet.anyDepth ≤ 1 → ∀ path, s.ways path ≤ 1) ∧
    ((∀ s ∈ searches, s.names.count FileSet.anyDepth ≤ 1) →
      (searches.Pairwise fun s s' => ∀ path, t.isFile path = true →
        s.ways path = 0 ∨ s'.ways path = 0) →
      files.Nodup) := by
  intro searches
  have hfile (hfile : t.isFile pattern = true) : files = [pattern] := by
    have hne : pattern ≠ "" := by
      rintro rfl
      cases hfile
    rw [FileSet.ofPattern, if_neg hne, if_pos hfile] at h
    exact (Except.ok.inj h).symm
  have hone (s : FileSet.Search) (hs : s.names.count FileSet.anyDepth ≤ 1) (path : String) :
      s.ways path ≤ 1 := by
    unfold FileSet.Search.ways
    split
    · exact FileSet.ways_le_one hs
    · exact Nat.zero_le 1
  refine ⟨hfile, FileSet.count_ofPattern h, fun s _ => hone s, fun hdeep hpair => ?_⟩
  cases hno : t.isFile pattern with
  | true =>
    rw [hfile hno]
    exact List.nodup_singleton pattern
  | false =>
    refine List.nodup_iff_count_le_one.2 fun path => ?_
    rw [FileSet.count_ofPattern h hno]
    split
    · rename_i hpath
      exact FileSet.sum_map_le_one (fun s hs => hone s (hdeep s hs) path)
        (hpair.imp fun hzero => hzero path hpath)
    · exact Nat.zero_le 1

/-- A file below two directories, for a pattern with two names for any number of them. -/
theorem pattern_lists_by_ways_deep :
    let t := ((Tree.empty.place ["a"] .directory).place ["a", "b"] .directory).place
      ["a", "b", "x.css"] (.file [])
    let pattern := "**/**/x.css"
    ∃ files, FileSet.ofPattern t pattern [] = .ok files ∧ files.count "a/b/x.css" = 3 ∧
      files.count "a/b" = 0 := by
  intro t pattern
  obtain ⟨files, hfiles, -⟩ : ∃ files, FileSet.ofPattern t pattern [] = .ok files ∧ true = true :=
    exists_of_gives (p := fun _ => true) (by decide +kernel)
  obtain ⟨-, hcount, -⟩ := pattern_lists_by_ways hfiles
  have hno : t.isFile pattern = false := by decide +kernel
  exact ⟨files, hfiles, (hcount hno "a/b/x.css").trans (by decide +kernel),
    (hcount hno "a/b").trans (by decide +kernel)⟩

/-- A file with two of the endings, one that is reached in two ways, and one that is named by two
paths. -/
theorem pattern_lists_file_twice :
    let t := (Tree.empty.place ["d"] .directory).place ["d", "x.min.css"] (.file [])
    let t' := ((Tree.empty.place ["a"] .directory).place ["b"] .directory).place ["x.css"] (.file [])
    FileSet.ofPattern t "d" [".css", ".min.css"] = .ok ["d/x.min.css", "d/x.min.css"] ∧
    FileSet.ofPattern t "**/**/x.min.css" [".css"] = .ok ["d/x.min.css", "d/x.min.css"] ∧
    FileSet.ofPattern t' "*/../x.css" [".css"] = .ok ["a/../x.css", "b/../x.css"] ∧
    t'.location? "a/../x.css" = t'.location? "b/../x.css" := by
  intro t t'
  have hdirectory : t.walk "d" = .ok (.directory ["d"]) := by decide +kernel
  have hpattern {t : Tree} {pattern : String} {files : List String} (hne : pattern ≠ "")
      (hexists : t.exists? pattern = false) (hsearch : FileSet.search t pattern = .ok files)
      (hfiles : files.filter t.isFile = files) (hsorted : files.Pairwise (· ≤ ·)) :
      FileSet.ofPattern t pattern [".css"] = .ok files := by
    rw [FileSet.ofPattern_of_search hne hexists hsearch,
      FileSet.regularFiles_of_pairwise hfiles hsorted]
  refine ⟨FileSet.ofPattern_eq_of_pairwise hdirectory ?_ ?_ ?_, hpattern ?_ ?_ ?_ ?_ ?_,
    hpattern ?_ ?_ ?_ ?_ ?_, ?_⟩ <;> decide +kernel

end Restyle
