import Restyle.Path

/-!
# The file tree

Files and directories below a root, and the directory that work is done in. A location is the list of
names from the root down; every entry stands once, below a directory and under a legal name, and the
root is a directory that needs no entry. `walk` follows a path: from the root if it is absolute, and
from the working directory otherwise.

A node that was placed stands at its location and every other entry is as before
(`node?_place_self`, `node?_place_of_ne`); likewise for erasing.

This is a tree that nobody else works on, where everything is permitted and nothing breaks down: there
are no rights, no links and no full disks, and the only device is the null device. So an operation fails
for what stands at its path, for a path that is too long and for the NUL character, and for nothing
else. The names of entries are texts.
-/

namespace Restyle

open Text

/-- The names that lead from the root to an entry. -/
abbrev Location := List String

/-- An entry of the tree. -/
inductive Node
  | file (content : Octets)
  | directory
  | device
  deriving DecidableEq, Repr

/-- Whether an entry is a regular file. -/
def Node.isFile : Node → Bool
  | .file _ => true
  | _ => false

/-- Why an operation on a path fails. -/
inductive FileFault
  | notFound
  | alreadyExists
  | notDirectory
  | isDirectory
  | nameTooLong
  | unusable
  deriving DecidableEq, Repr

namespace Tree

/-- Whether an entry can have this name. -/
def isLegalName (name : String) : Bool :=
  Path.isStep name && name != ".." && !name.toList.contains Path.slash && !Path.hasNul name &&
    Path.size name ≤ Path.nameLimit

/-- Where the null device stands, if there is one. -/
def nullDevice : Location := ["dev", "null"]

/-- What stands at a location of a list of entries; the root is a directory. -/
def nodeAt? (entries : List (Location × Node)) (l : Location) : Option Node :=
  if l = [] then some .directory else (entries.find? fun e => e.1 = l).map Prod.snd

/-- Every entry stands once, below a directory, under a legal name, and devices in their place. -/
structure IsSound (entries : List (Location × Node)) : Prop where
  nodup : (entries.map Prod.fst).Nodup
  legal : ∀ e ∈ entries, e.1 ≠ [] ∧ ∀ name ∈ e.1, isLegalName name = true
  nested : ∀ e ∈ entries, nodeAt? entries e.1.dropLast = some .directory
  device : ∀ e ∈ entries, e.2 = .device → e.1 = nullDevice

end Tree

/-- Files and directories, and where among them work is done. -/
@[ext] structure Tree where
  entries : List (Location × Node)
  here : Location
  sound : Tree.IsSound entries
  here_directory : Tree.nodeAt? entries here = some .directory

namespace Tree

/-- A tree without entries. Work is done at the root. -/
def empty : Tree where
  entries := []
  here := []
  sound := ⟨List.nodup_nil, by simp, by simp, by simp⟩
  here_directory := rfl

/-- What stands at a location. -/
def node? (t : Tree) (l : Location) : Option Node :=
  nodeAt? t.entries l

/-! ### Changes of single entries -/

/-- A list of entries with a node at a location: in place of the old one, or at the end. -/
def placeIn (l : Location) (n : Node) : List (Location × Node) → List (Location × Node)
  | [] => [(l, n)]
  | e :: rest => if e.1 = l then (l, n) :: rest else e :: placeIn l n rest

theorem map_fst_placeIn (l : Location) (n : Node) (entries : List (Location × Node)) :
    (placeIn l n entries).map Prod.fst =
      if l ∈ entries.map Prod.fst then entries.map Prod.fst else entries.map Prod.fst ++ [l] := by
  induction entries with
  | nil => simp [placeIn]
  | cons e rest ih =>
    by_cases h : e.1 = l
    · simp [placeIn, h]
    · have h' : ¬ l = e.1 := fun eq => h eq.symm
      simp only [placeIn, h, if_false, List.map_cons, List.mem_cons, h', false_or, ih]
      split <;> simp_all

theorem mem_placeIn {l : Location} {n : Node} {entries : List (Location × Node)}
    {e : Location × Node} (h : e ∈ placeIn l n entries) : e = (l, n) ∨ e ∈ entries := by
  induction entries with
  | nil => simpa [placeIn] using h
  | cons f rest ih =>
    by_cases hf : f.1 = l
    · simp only [placeIn, hf, if_true, List.mem_cons] at h
      rcases h with h | h
      · exact .inl h
      · exact .inr (List.mem_cons_of_mem _ h)
    · simp only [placeIn, hf, if_false, List.mem_cons] at h
      rcases h with h | h
      · exact .inr (h ▸ List.mem_cons_self)
      · exact (ih h).imp id (List.mem_cons_of_mem _)

theorem nodeAt?_placeIn (l m : Location) (n : Node) (entries : List (Location × Node))
    (hl : l ≠ []) :
    nodeAt? (placeIn l n entries) m = if m = l then some n else nodeAt? entries m := by
  by_cases hm : m = []
  · have h : ¬ m = l := fun e => hl (e ▸ hm)
    rw [if_neg h]
    simp [nodeAt?, hm]
  · simp only [nodeAt?, hm, if_false]
    induction entries with
    | nil => by_cases h : m = l <;> simp [placeIn, h, eq_comm]
    | cons e rest ih =>
      by_cases he : e.1 = l
      · by_cases h : m = l
        · simp [placeIn, he, h]
        · have h' : ¬ l = m := fun eq => h eq.symm
          simp [placeIn, he, h, h']
      · by_cases h : e.1 = m
        · have h' : ¬ m = l := fun eq => he (h.trans eq)
          simp [placeIn, h, h']
        · simpa [placeIn, he, h] using ih

/-- A node may be put at a location: the names are legal, the parent is a directory, nothing but a file
is replaced, and a device comes to its place. -/
structure Admits (t : Tree) (l : Location) (n : Node) : Prop where
  ne_root : l ≠ []
  legal : ∀ name ∈ l, isLegalName name = true
  parent : t.node? l.dropLast = some .directory
  replaced : (t.node? l).all Node.isFile = true
  device : n = .device → l = nullDevice

instance (t : Tree) (l : Location) (n : Node) : Decidable (t.Admits l n) :=
  decidable_of_iff
    (l ≠ [] ∧ (∀ name ∈ l, isLegalName name = true) ∧ t.node? l.dropLast = some .directory ∧
      (t.node? l).all Node.isFile = true ∧ (n = .device → l = nullDevice))
    ⟨fun h => ⟨h.1, h.2.1, h.2.2.1, h.2.2.2.1, h.2.2.2.2⟩,
      fun h => ⟨h.ne_root, h.legal, h.parent, h.replaced, h.device⟩⟩

theorem Admits.ne_directory {t : Tree} {l : Location} {n : Node} (h : t.Admits l n) :
    t.node? l ≠ some .directory := by
  intro hdir
  have hreplaced := h.replaced
  rw [hdir] at hreplaced
  cases hreplaced

theorem isSound_placeIn (t : Tree) (l : Location) (n : Node) (h : t.Admits l n) :
    IsSound (placeIn l n t.entries) := by
  refine ⟨?_, ?_, ?_, ?_⟩
  -- Locations stay distinct: the new one takes an old place or is not there yet.
  · rw [map_fst_placeIn]
    split
    · exact t.sound.nodup
    · rename_i hn
      refine List.nodup_append.2 ⟨t.sound.nodup, by simp, ?_⟩
      intro a ha b hb
      rw [List.mem_singleton.1 hb]
      exact fun e => hn (e ▸ ha)
  -- Names stay legal.
  · intro e he
    rcases mem_placeIn he with rfl | he
    · exact ⟨h.ne_root, h.legal⟩
    · exact t.sound.legal e he
  -- Every entry stays below a directory.
  · intro e he
    rw [nodeAt?_placeIn _ _ _ _ h.ne_root]
    rcases mem_placeIn he with rfl | he
    · split
      · -- No location is its own parent.
        rename_i eq
        have := congrArg List.length eq
        simp only [List.length_dropLast] at this
        have : 0 < l.length := List.length_pos_iff.2 h.ne_root
        omega
      · exact h.parent
    · have hd := t.sound.nested e he
      split
      · -- The entry would lie in the directory at `l`, which is not replaced.
        rename_i eq
        rw [eq] at hd
        exact absurd hd h.ne_directory
      · exact hd
  -- Devices stay in their place.
  · intro e he
    rcases mem_placeIn he with rfl | he
    · exact h.device
    · exact t.sound.device e he

/-- What is a directory stays one. -/
theorem nodeAt?_placeIn_directory {t : Tree} {l m : Location} {n : Node} (h : t.Admits l n)
    (hm : t.node? m = some .directory) :
    nodeAt? (placeIn l n t.entries) m = some .directory := by
  have hne : m ≠ l := by
    rintro rfl
    exact h.ne_directory hm
  rw [nodeAt?_placeIn _ _ _ _ h.ne_root, if_neg hne]
  exact hm

/-- The tree with a node at a location, if the location admits it. -/
def place (t : Tree) (l : Location) (n : Node) : Tree :=
  if h : t.Admits l n then
    ⟨placeIn l n t.entries, t.here, isSound_placeIn t l n h,
      nodeAt?_placeIn_directory h t.here_directory⟩
  else t

theorem place_of_not_admits {t : Tree} {l : Location} {n : Node} (h : ¬ t.Admits l n) :
    t.place l n = t := by
  rw [place, dif_neg h]

theorem entries_place {t : Tree} {l : Location} {n : Node} (h : t.Admits l n) :
    (t.place l n).entries = placeIn l n t.entries := by
  rw [place, dif_pos h]

@[simp] theorem here_place (t : Tree) (l : Location) (n : Node) : (t.place l n).here = t.here := by
  unfold place
  split <;> rfl

/-- A node that was placed stands there. -/
theorem node?_place_self {t : Tree} {l : Location} {n : Node} (h : t.Admits l n) :
    (t.place l n).node? l = some n := by
  rw [node?, entries_place h, nodeAt?_placeIn _ _ _ _ h.ne_root, if_pos rfl]

/-- Other locations are as they were. -/
theorem node?_place_of_ne (t : Tree) {l m : Location} (n : Node) (hm : m ≠ l) :
    (t.place l n).node? m = t.node? m := by
  by_cases h : t.Admits l n
  · rw [node?, entries_place h, nodeAt?_placeIn _ _ _ _ h.ne_root, if_neg hm]
    rfl
  · rw [place_of_not_admits h]

theorem find?_filter_ne (entries : List (Location × Node)) {l m : Location} (h : m ≠ l) :
    (entries.filter fun e => e.1 ≠ l).find? (fun e => e.1 = m) =
      entries.find? fun e => e.1 = m := by
  induction entries with
  | nil => rfl
  | cons e rest ih =>
    by_cases he : e.1 = l
    · have : ¬ l = m := fun eq => h eq.symm
      simpa [he, this] using ih
    · by_cases hm : e.1 = m
      · simp [hm, h]
      · simpa [he, hm] using ih

/-- What is a directory stays one. -/
theorem nodeAt?_filter_directory {t : Tree} {l m : Location} (h : t.node? l ≠ some .directory)
    (hm : t.node? m = some .directory) :
    nodeAt? (t.entries.filter fun e => e.1 ≠ l) m = some .directory := by
  have hne : m ≠ l := by
    rintro rfl
    exact h hm
  rw [nodeAt?, find?_filter_ne _ hne]
  exact hm

theorem isSound_filter (t : Tree) (l : Location) (h : t.node? l ≠ some .directory) :
    IsSound (t.entries.filter fun e => e.1 ≠ l) := by
  refine ⟨?_, ?_, ?_, ?_⟩
  · exact t.sound.nodup.sublist (List.filter_sublist.map _)
  · exact fun e he => t.sound.legal e (List.mem_filter.1 he).1
  · -- What is erased is no directory, so nothing that is left lies below it.
    intro e he
    exact nodeAt?_filter_directory h (t.sound.nested e (List.mem_filter.1 he).1)
  · exact fun e he => t.sound.device e (List.mem_filter.1 he).1

/-- The tree without what stands at a location, unless that is a directory. -/
def erase (t : Tree) (l : Location) : Tree :=
  if h : t.node? l = some .directory then t
  else
    ⟨t.entries.filter fun e => e.1 ≠ l, t.here, isSound_filter t l h,
      nodeAt?_filter_directory h t.here_directory⟩

theorem entries_erase {t : Tree} {l : Location} (h : t.node? l ≠ some .directory) :
    (t.erase l).entries = t.entries.filter fun e => e.1 ≠ l := by
  rw [erase, dif_neg h]

@[simp] theorem here_erase (t : Tree) (l : Location) : (t.erase l).here = t.here := by
  unfold erase
  split <;> rfl

/-- Nothing is left where a file was. -/
theorem node?_erase_self {t : Tree} {l : Location} (h : t.node? l ≠ some .directory) :
    (t.erase l).node? l = none := by
  have hl : l ≠ [] := fun e => h (by simp [node?, nodeAt?, e])
  rw [node?, entries_erase h, nodeAt?, if_neg hl, Option.map_eq_none_iff, List.find?_eq_none]
  intro e he
  simpa using (List.mem_filter.1 he).2

/-- Other locations are as they were. -/
theorem node?_erase_of_ne (t : Tree) {l m : Location} (hm : m ≠ l) :
    (t.erase l).node? m = t.node? m := by
  by_cases h : t.node? l = some .directory
  · rw [erase, dif_pos h]
  · rw [node?, entries_erase h, node?, nodeAt?, nodeAt?, find?_filter_ne _ hm]

/-- The tree where work is done in another directory. -/
def enter (t : Tree) (l : Location) : Tree :=
  if h : t.node? l = some .directory then ⟨t.entries, l, t.sound, h⟩ else t

/-! ### Following paths -/

/-- Where a path leads: to a directory, to a file, to a device, or to a name that is free in a
directory. -/
inductive Place
  | directory (l : Location)
  | file (l : Location) (content : Octets)
  | device
  | free (l : Location)
  deriving DecidableEq, Repr

/-- What a path leads to that ends at a location. -/
def placeAt (t : Tree) (l : Location) : Place :=
  match t.node? l with
  | some .directory => .directory l
  | some (.file content) => .file l content
  | some .device => .device
  | none => .free l

/-- The place that is reached from a directory. The root is its own parent. -/
def walkFrom (t : Tree) : Location → List String → Except FileFault Place
  | here, [] => .ok (.directory here)
  | here, step :: rest =>
    if !Path.isStep step then walkFrom t here rest
    else if step = ".." then walkFrom t here.dropLast rest
    else if Path.nameLimit < Path.size step then .error .nameTooLong
    else if t.node? (here ++ [step]) = some .directory then walkFrom t (here ++ [step]) rest
    else if rest = [] then .ok (t.placeAt (here ++ [step]))
    else if t.node? (here ++ [step]) = none then .error .notFound
    else .error .notDirectory

/-- Where a path starts. -/
def start (t : Tree) (path : String) : Location :=
  if Path.isAbsolute path then [] else t.here

/-- The place of a path. -/
def walk (t : Tree) (path : String) : Except FileFault Place :=
  if Path.hasNul path then .error .unusable
  else if path = "" then .error .notFound
  else if Path.pathLimit ≤ Path.size path then .error .nameTooLong
  else t.walkFrom (t.start path) (Path.pieces path)

/-- Whether a path leads to anything. -/
def exists? (t : Tree) (path : String) : Bool :=
  match t.walk path with
  | .ok (.free _) => false
  | .ok _ => true
  | .error _ => false

/-- Whether a path leads to a regular file. -/
def isFile (t : Tree) (path : String) : Bool :=
  match t.walk path with
  | .ok (.file _ _) => true
  | _ => false

/-- Whether a path leads to a directory. -/
def isDirectory (t : Tree) (path : String) : Bool :=
  match t.walk path with
  | .ok (.directory _) => true
  | _ => false

/-! ### Operations by path -/

/-- The content of a file. -/
def read (t : Tree) (path : String) : Except FileFault Octets := do
  match ← t.walk path with
  | .file _ content => .ok content
  | .device => .ok []
  | .free _ => .error .notFound
  | .directory _ => .error .isDirectory

/-- The tree after a file was written, which is made if its directory exists. -/
def write (t : Tree) (path : String) (content : Octets) : Except FileFault Tree := do
  match ← t.walk path with
  | .file l _ | .free l => .ok (t.place l (.file content))
  | .device => .ok t
  | .directory _ => .error .isDirectory

/-- The tree after a file was removed. The null device stays. -/
def remove (t : Tree) (path : String) : Except FileFault Tree := do
  match ← t.walk path with
  | .file l _ => .ok (t.erase l)
  | .device => .ok t
  | .free _ => .error .notFound
  | .directory _ => .error .isDirectory

/-- The tree with a directory made at a path whose own directory exists. -/
def makeDirectory (t : Tree) (path : String) : Except FileFault Tree := do
  match ← t.walk path with
  | .free l => .ok (t.place l .directory)
  | _ => .error .alreadyExists

/-- The tree with all directories at the beginning of a location made. -/
def placeDirectories (t : Tree) (above : Location) : Location → Tree
  | [] => t
  | name :: rest =>
    let l := above ++ [name]
    placeDirectories (if t.node? l = none then t.place l .directory else t) l rest

/-- The names that stand directly below a location. -/
def namesIn (t : Tree) (l : Location) : List (String × Node) :=
  t.entries.filterMap fun e =>
    if e.1.dropLast = l then e.1.getLast?.map fun name => (name, e.2) else none

/-- The locations below a location, seen from there. -/
def below (t : Tree) (l : Location) : List (Location × Node) :=
  t.entries.filterMap fun e =>
    if l.isPrefixOf e.1 && e.1 ≠ l then some (e.1.drop l.length, e.2) else none

end Tree

end Restyle
