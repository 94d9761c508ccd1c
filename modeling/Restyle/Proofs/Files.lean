import Mathlib.Data.List.Nodup
import Restyle.Tree

/-!
# Files with new content

Writing a file that is there already changes its content and nothing else: every path leads where it
led before, and only what is found in this file is new (`walk_place`). Where a path leads is told step
by step by `Walks`, with one case for each kind of step (`walkFrom_eq_ok_iff`).
-/

namespace Restyle

open Text

namespace Tree

/-! ## Files of a tree -/

/-- Whatever stands anywhere but at the root is an entry. -/
theorem mem_entries {t : Tree} {l : Location} {n : Node} :
    (l, n) ∈ t.entries ↔ l ≠ [] ∧ t.node? l = some n := by
  constructor
  · intro h
    have hl := (t.sound.legal _ h).1
    refine ⟨hl, ?_⟩
    rw [node?, nodeAt?, if_neg hl]
    cases hfind : t.entries.find? fun e => e.1 = l with
    | none =>
      have hno := List.find?_eq_none.1 hfind _ h
      simp at hno
    | some e =>
      have he : e.1 = l := by simpa using List.find?_some hfind
      obtain rfl : e = (l, n) :=
        List.inj_on_of_nodup_map t.sound.nodup (List.mem_of_find?_eq_some hfind) h he
      rfl
  · rintro ⟨hl, hnode⟩
    rw [node?, nodeAt?, if_neg hl, Option.map_eq_some_iff] at hnode
    obtain ⟨e, he, rfl⟩ := hnode
    obtain rfl : e.1 = l := by simpa using List.find?_some he
    exact List.mem_of_find?_eq_some he

/-- What stands anywhere but at the root stands in a directory. -/
theorem directory_of_node {t : Tree} {l : Location} {n : Node} (hl : l ≠ [])
    (h : t.node? l = some n) : t.node? l.dropLast = some .directory :=
  t.sound.nested _ (mem_entries.2 ⟨hl, h⟩)

theorem legal_of_node {t : Tree} {l : Location} {n : Node} (h : t.node? l = some n) :
    ∀ name ∈ l, isLegalName name = true := by
  by_cases hl : l = []
  · simp [hl]
  · exact (t.sound.legal _ (mem_entries.2 ⟨hl, h⟩)).2

/-- What stands in the way of a node. -/
theorem Admits.cases {t : Tree} {l : Location} {n : Node} (h : t.Admits l n) :
    t.node? l = none ∨ ∃ old, t.node? l = some (.file old) := by
  have hreplaced := h.replaced
  cases hnode : t.node? l with
  | none => exact .inl rfl
  | some node =>
    rw [hnode] at hreplaced
    cases node with
    | file old => exact .inr ⟨old, rfl⟩
    | directory => cases hreplaced
    | device => cases hreplaced

/-- Where a file stands, another content can be put. -/
theorem admits_of_file {t : Tree} {l : Location} {old : Octets}
    (h : t.node? l = some (.file old)) (content : Octets) : t.Admits l (.file content) := by
  have hl : l ≠ [] := by
    rintro rfl
    cases h
  exact ⟨hl, legal_of_node h, directory_of_node hl h, by rw [h]; rfl, by simp⟩

/-- A device stands in its place. -/
theorem eq_nullDevice {t : Tree} {l : Location} (h : t.node? l = some .device) : l = nullDevice := by
  have hl : l ≠ [] := by
    rintro rfl
    cases h
  exact t.sound.device _ (mem_entries.2 ⟨hl, h⟩) rfl

/-- What stands at a place. -/
def Place.node? : Place → Option Node
  | .directory _ => some .directory
  | .file _ content => some (.file content)
  | .device => some .device
  | .free _ => none

/-- The location of a place; that of the null device goes without saying. -/
def Place.location? : Place → Option Location
  | .directory l | .file l _ | .free l => some l
  | .device => none

/-- A place tells what stands there, and where that is. -/
theorem node?_of_placeAt {t : Tree} {m : Location} {p : Place} (h : t.placeAt m = p) :
    t.node? m = p.node? ∧ ∀ l, p.location? = some l → m = l := by
  subst h
  rw [placeAt]
  cases t.node? m with
  | none => exact ⟨rfl, fun l hl => Option.some.inj hl⟩
  | some node =>
    cases node with
    | file | directory => exact ⟨rfl, fun l hl => Option.some.inj hl⟩
    | device => exact ⟨rfl, fun l hl => by cases hl⟩

/-- Whether a step of a path leads down to a name. -/
def IsDown (step : String) : Prop :=
  Path.isStep step = true ∧ step ≠ ".." ∧ Path.size step ≤ Path.nameLimit

/-- Where steps lead from a directory: an empty step or a single dot stays, two dots go up as far as the
root, and anything else goes down, into a directory or, as the last step, to whatever stands there. -/
inductive Walks (t : Tree) : Location → List String → Place → Prop
  | done (here : Location) : Walks t here [] (.directory here)
  | stay {here : Location} {step : String} {rest : List String} {p : Place} :
      Path.isStep step = false → Walks t here rest p → Walks t here (step :: rest) p
  | up {here : Location} {rest : List String} {p : Place} :
      Walks t here.dropLast rest p → Walks t here (".." :: rest) p
  | down {here : Location} {step : String} {rest : List String} {p : Place} : IsDown step →
      t.node? (here ++ [step]) = some .directory → Walks t (here ++ [step]) rest p →
      Walks t here (step :: rest) p
  | stop {here : Location} {step : String} : IsDown step →
      t.node? (here ++ [step]) ≠ some .directory →
      Walks t here [step] (t.placeAt (here ++ [step]))

theorem walks_of_walkFrom {t : Tree} {here : Location} {steps : List String} {p : Place}
    (h : t.walkFrom here steps = .ok p) : t.Walks here steps p := by
  induction steps generalizing here with
  | nil =>
    cases h
    exact .done here
  | cons step rest ih =>
    unfold walkFrom at h
    split at h
    case isTrue hstay => exact .stay (by simpa using hstay) (ih h)
    case isFalse hstep =>
    split at h
    case isTrue hup =>
      subst hup
      exact .up (ih h)
    case isFalse hup =>
    split at h
    case isTrue => cases h
    case isFalse hlong =>
    have hdown : IsDown step := ⟨by simpa using hstep, hup, Nat.le_of_not_lt hlong⟩
    split at h
    case isTrue hdir => exact .down hdown hdir (ih h)
    case isFalse hdir =>
    split at h
    case isTrue hrest =>
      cases h
      subst hrest
      exact .stop hdown hdir
    case isFalse => split at h <;> cases h

theorem walkFrom_of_walks {t : Tree} {here : Location} {steps : List String} {p : Place}
    (h : t.Walks here steps p) : t.walkFrom here steps = .ok p := by
  induction h with
  | done here => rfl
  | stay hstay _ ih => rw [walkFrom, if_pos (by rw [hstay]; rfl), ih]
  | up _ ih => rw [walkFrom, if_neg (by decide), if_pos rfl, ih]
  | down hdown hnode _ ih =>
    rw [walkFrom, if_neg (by rw [hdown.1]; simp), if_neg hdown.2.1,
      if_neg (Nat.not_lt_of_le hdown.2.2), if_pos hnode, ih]
  | stop hdown hnode =>
    rw [walkFrom, if_neg (by rw [hdown.1]; simp), if_neg hdown.2.1,
      if_neg (Nat.not_lt_of_le hdown.2.2), if_neg hnode, if_pos rfl]

theorem walkFrom_eq_ok_iff {t : Tree} {here : Location} {steps : List String} {p : Place} :
    t.walkFrom here steps = .ok p ↔ t.Walks here steps p :=
  ⟨walks_of_walkFrom, walkFrom_of_walks⟩

theorem Walks.node?_eq {t : Tree} {steps : List String} {here l : Location} {content : Octets}
    {p : Place} (h : t.Walks here steps p) (hp : p = .file l content) :
    t.node? l = some (.file content) := by
  induction h with
  | done => cases hp
  | stay _ _ ih | up _ ih | down _ _ _ ih => exact ih hp
  | stop =>
    obtain ⟨hnode, hl⟩ := node?_of_placeAt hp
    rwa [hl l rfl] at hnode

/-- A path that leads anywhere has names, is not too long and holds no NUL. -/
theorem walk_eq_ok_iff {t : Tree} {path : String} {p : Place} : t.walk path = .ok p ↔
    Path.hasNul path = false ∧ path ≠ "" ∧ Path.size path < Path.pathLimit ∧
      t.walkFrom (t.start path) (Path.pieces path) = .ok p := by
  unfold walk
  split
  case isTrue hnul => simp [hnul]
  split
  case isTrue hempty => simp [hempty]
  split
  case isTrue hlong => simp [Nat.not_lt_of_le hlong]
  rename_i hnul hempty hlong
  exact ⟨fun h => ⟨by simpa using hnul, hempty, Nat.lt_of_not_le hlong, h⟩, fun h => h.2.2.2⟩

/-- A path that leads to a file leads to where it stands. -/
theorem node?_of_walk {t : Tree} {path : String} {l : Location} {content : Octets}
    (h : t.walk path = .ok (.file l content)) : t.node? l = some (.file content) := by
  obtain ⟨-, -, -, h⟩ := walk_eq_ok_iff.1 h
  exact (walkFrom_eq_ok_iff.1 h).node?_eq rfl

/-! ## New content -/

/-- A place where the file at a location has new content. -/
def Place.withContent (l : Location) (content : Octets) : Place → Place
  | .file m old => .file m (if m = l then content else old)
  | p => p

theorem placeAt_place {t : Tree} {l : Location} {old : Octets} (h : t.node? l = some (.file old))
    (content : Octets) (m : Location) :
    (t.place l (.file content)).placeAt m = (t.placeAt m).withContent l content := by
  by_cases hm : m = l
  · subst hm
    rw [placeAt, node?_place_self (admits_of_file h content), placeAt, h]
    dsimp only
    rw [Place.withContent, if_pos rfl]
  · rw [placeAt, node?_place_of_ne t _ hm, placeAt]
    cases t.node? m with
    | none => rfl
    | some node =>
      cases node with
      | file other =>
        dsimp only
        rw [Place.withContent, if_neg hm]
      | directory | device => rfl

/-- New content makes no directories and takes none away, and so it is with what is free. -/
theorem node?_place_iff {t : Tree} {l : Location} {old : Octets} (h : t.node? l = some (.file old))
    (content : Octets) (m : Location) :
    ((t.place l (.file content)).node? m = some .directory ↔ t.node? m = some .directory) ∧
      ((t.place l (.file content)).node? m = none ↔ t.node? m = none) := by
  by_cases hm : m = l
  · subst hm
    rw [node?_place_self (admits_of_file h content), h]
    simp
  · rw [node?_place_of_ne t _ hm]
    exact ⟨Iff.rfl, Iff.rfl⟩

theorem walkFrom_place {t : Tree} {l : Location} {old : Octets} (h : t.node? l = some (.file old))
    (content : Octets) (here : Location) (steps : List String) :
    (t.place l (.file content)).walkFrom here steps =
      (t.walkFrom here steps).map (Place.withContent l content) := by
  induction steps generalizing here with
  | nil => rfl
  | cons step rest ih =>
    obtain ⟨hdirectory, hfree⟩ := node?_place_iff h content (here ++ [step])
    simp only [walkFrom, hdirectory, hfree, ih, placeAt_place h]
    split_ifs <;> rfl

/-- Every path leads where it led before. -/
theorem walk_place {t : Tree} {l : Location} {old : Octets} (h : t.node? l = some (.file old))
    (content : Octets) (path : String) :
    (t.place l (.file content)).walk path = (t.walk path).map (Place.withContent l content) := by
  unfold walk
  split
  · rfl
  split
  · rfl
  split
  · rfl
  · rw [start, here_place, ← start]
    exact walkFrom_place h content _ _

/-! ## Placing twice -/

theorem placeIn_self {l : Location} {n : Node} {entries : List (Location × Node)}
    (h : (entries.find? fun e => e.1 = l).map Prod.snd = some n) :
    placeIn l n entries = entries := by
  induction entries with
  | nil => cases h
  | cons e rest ih =>
    by_cases he : e.1 = l
    · rw [List.find?_cons_of_pos (by simpa using he), Option.map_some, Option.some.injEq] at h
      rw [placeIn, if_pos he, ← he, ← h]
    · rw [List.find?_cons_of_neg (by simpa using he)] at h
      rw [placeIn, if_neg he, ih h]

/-- Placing what is there already changes nothing. -/
theorem place_self {t : Tree} {l : Location} {n : Node} (h : t.node? l = some n) :
    t.place l n = t := by
  by_cases hadmits : t.Admits l n
  · rw [node?, nodeAt?, if_neg hadmits.ne_root] at h
    refine Tree.ext ?_ (here_place t l n)
    rw [entries_place hadmits, placeIn_self h]
  · exact place_of_not_admits hadmits

theorem placeIn_placeIn (l : Location) (n n' : Node) (entries : List (Location × Node)) :
    placeIn l n' (placeIn l n entries) = placeIn l n' entries := by
  induction entries with
  | nil => simp only [placeIn, if_true]
  | cons e rest ih =>
    by_cases he : e.1 = l
    · rw [placeIn, if_pos he, placeIn, if_pos rfl, placeIn, if_pos he]
    · rw [placeIn, if_neg he, placeIn, if_neg he, ih, placeIn, if_neg he]

/-- Of two contents that a file is given, the second one counts. -/
theorem place_place {t : Tree} {l : Location} {first second : Octets}
    (hfirst : t.Admits l (.file first)) (hsecond : t.Admits l (.file second)) :
    (t.place l (.file first)).place l (.file second) = t.place l (.file second) := by
  have hagain := admits_of_file (node?_place_self hfirst) second
  refine Tree.ext ?_ (by simp)
  rw [entries_place hagain, entries_place hfirst, entries_place hsecond, placeIn_placeIn]

/-! ## Writing and reading -/

theorem read_of_walk {t : Tree} {path : String} {l : Location} {content : Octets}
    (h : t.walk path = .ok (.file l content)) : t.read path = .ok content := by
  rw [read, h]
  rfl

/-- Only files and the null device can be read. -/
theorem read_cases {t : Tree} {path : String} {content : Octets} (h : t.read path = .ok content) :
    (∃ l, t.walk path = .ok (.file l content)) ∨ t.walk path = .ok .device ∧ content = [] := by
  cases hw : t.walk path with
  | error fault =>
    rw [read, hw] at h
    cases h
  | ok p =>
    rw [read, hw] at h
    cases p with
    | file l old =>
      cases h
      exact .inl ⟨l, rfl⟩
    | device =>
      cases h
      exact .inr ⟨rfl, rfl⟩
    | directory l => cases h
    | free l => cases h

theorem write_of_walk {t : Tree} {path : String} {l : Location} {old : Octets}
    (h : t.walk path = .ok (.file l old)) (content : Octets) :
    t.write path content = .ok (t.place l (.file content)) := by
  rw [write, h]
  rfl

/-- What is written is read again. -/
theorem read_place {t : Tree} {path : String} {l : Location} {old : Octets}
    (h : t.walk path = .ok (.file l old)) (content : Octets) :
    (t.place l (.file content)).read path = .ok content := by
  have hwalk : (t.place l (.file content)).walk path = .ok (.file l content) := by
    rw [walk_place (node?_of_walk h), h]
    rw [Except.map, Place.withContent, if_pos rfl]
  exact read_of_walk hwalk

end Tree

end Restyle
