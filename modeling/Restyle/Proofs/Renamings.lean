import Restyle.Proofs.Convergence
import Restyle.Proofs.Locations
import Restyle.Proofs.RenamedFile

/-!
# Renaming in one file after the other

Paths may be listed more than once, or lead to the same file. What becomes of the tree is told by the
locations: a file has gone through as many passes as paths lead to it, and all else is as it was
(`Renamings.node?_eq`). A path that leads to none of these files leads to the very same place
(`Renamings.walk_eq`).
-/

namespace Restyle

open Script Text

/-! ## Passes over a file -/

section Content

variable {α : Type} [DecidableEq α] [Script α]

/-- What becomes of a text does not depend on the file that it is in. -/
theorem text_renameInContent_eq (file file' : String) (index : Index) (content : List α) :
    (renameInContent file index content).text = (renameInContent file' index content).text := by
  rw [renameInContent, renameInContent, map_text_renameInLines, map_text_renameInLines]

theorem contentAfter_add (file : String) (index : Index) (m n : Nat) (content : List α) :
    contentAfter file index m (contentAfter file index n content) =
      contentAfter file index (m + n) content := by
  induction n generalizing content with
  | zero => rfl
  | succ n ih => rw [contentAfter, ih, Nat.add_succ, contentAfter]

end Content

/-- An entry of the tree after a number of passes over it. -/
def Node.afterPasses (index : Index) (n : Nat) : Node → Node
  | .file content => .file (contentAfter "" index n content)
  | .directory => .directory
  | .device => .device

theorem Node.afterPasses_zero (index : Index) (node : Node) : node.afterPasses index 0 = node := by
  cases node <;> rfl

/-! ## Listed files -/

/-- How many of some paths lead to a location. -/
def Tree.timesListed (t : Tree) (paths : List String) (l : Location) : Nat :=
  paths.countP fun path => t.location? path = some l

/-- Whether some of the paths lead to the location that another path leads to. -/
def Tree.Lists (t : Tree) (paths : List String) (path : String) : Prop :=
  ∃ l, t.location? path = some l ∧ ∃ listed ∈ paths, t.location? listed = some l

instance (t : Tree) (paths : List String) (path : String) : Decidable (t.Lists paths path) :=
  decidable_of_iff (∃ listed ∈ paths, t.location? listed = t.location? path ∧
      (t.location? path).isSome) <| by
    constructor
    · rintro ⟨listed, hmem, heq, hsome⟩
      obtain ⟨l, hl⟩ := Option.isSome_iff_exists.1 hsome
      exact ⟨l, hl, listed, hmem, heq.trans hl⟩
    · rintro ⟨l, hl, listed, hmem, heq⟩
      exact ⟨listed, hmem, heq.trans hl.symm, by rw [hl]; rfl⟩

theorem Tree.timesListed_eq {t t' : Tree} (h : SameDirectories t t') (paths : List String)
    (l : Location) : t'.timesListed paths l = t.timesListed paths l := by
  simp only [timesListed, location?_eq h]

namespace Tree

/-- A new content is not found by a path that ends elsewhere. -/
theorem walk_place_of_ne {t : Tree} {l : Location} {old : Octets}
    (h : t.node? l = some (.file old)) (content : Octets) {path : String}
    (hl : t.location? path ≠ some l) : (t.place l (.file content)).walk path = t.walk path := by
  rw [walk_place h]
  cases hw : t.walk path with
  | error fault => rfl
  | ok p =>
    rw [location?, hw] at hl
    cases p with
    | file m other =>
      have hm : m ≠ l := fun e => hl (by rw [e])
      rw [Except.map, Place.withContent, if_neg hm]
    | _ => rfl

end Tree

/-- Whatever renaming by a path comes to: it has put what is left in the place of its file, or there is
nothing to do in the null device, or nothing can be read. -/
theorem renameAt_cases {index : Index} {path : String} {t tree : Tree}
    {result : Except Failure (List Diff)} (h : Action.renameAt index path t = (result, tree)) :
    (∃ l content, t.walk path = .ok (.file l content) ∧
      result = (renameInContent path index content).result ∧
      tree = t.place l (.file (renameInContent path index content).left)) ∨
    (t.walk path = .ok .device ∧ result = .ok [] ∧ tree = t) ∨
    ∃ fault, t.read path = .error fault ∧ result = .error (.ofRename path fault) ∧ tree = t := by
  cases hread : t.read path with
  | error fault =>
    rw [Action.renameAt_of_error hread] at h
    cases h
    exact .inr (.inr ⟨fault, rfl, rfl, rfl⟩)
  | ok content =>
    rcases Tree.read_cases hread with ⟨l, hw⟩ | ⟨hw, -⟩
    · rw [Action.renameAt_of_walk index hw] at h
      cases h
      exact .inl ⟨l, content, hw, rfl, rfl⟩
    · rw [Action.renameAt_of_device index hw] at h
      cases h
      exact .inr (.inl ⟨hw, rfl, rfl⟩)

/-- A renamed text that has come to its diffs is what is left. -/
theorem Renamed.left_of_result {done : Renamed UInt8} {diffs : List Diff}
    (h : done.result = .ok diffs) : diffs = done.diffs ∧ done.left = done.text := by
  unfold result at h
  split at h
  · rename_i hall
    cases h
    exact ⟨rfl, (Renamed.of_encodes hall).2⟩
  · cases h

/-- A renamed text comes to its diffs only if all new names in them can be written. -/
theorem Renamed.encodes_of_result {done : Renamed UInt8} {diffs : List Diff}
    (h : done.result = .ok diffs) : ∀ d ∈ done.diffs, Glyph.encodes d.new = true := by
  unfold result at h
  split at h
  · rename_i hall
    exact List.all_eq_true.1 hall
  · cases h

/-- Renaming that comes to its diffs puts the renamed text in the place of its file. -/
theorem renameAt_ok_cases {index : Index} {path : String} {t tree : Tree} {diffs : List Diff}
    (h : Action.renameAt index path t = (.ok diffs, tree)) :
    (∃ l content, t.walk path = .ok (.file l content) ∧
      diffs = (renameInContent path index content).diffs ∧
      tree = t.place l (.file (renameInContent path index content).text)) ∨
    t.walk path = .ok .device ∧ diffs = [] ∧ tree = t := by
  rcases renameAt_cases h with ⟨l, content, hw, hresult, rfl⟩ | ⟨hw, hresult, rfl⟩ | ⟨_, _, hresult, _⟩
  · obtain ⟨rfl, hleft⟩ := Renamed.left_of_result hresult.symm
    rw [hleft]
    exact .inl ⟨l, content, hw, rfl, rfl⟩
  · cases hresult
    exact .inr ⟨hw, rfl, rfl⟩
  · cases hresult

/-- How renaming by a path fails: nothing can be read there and nothing is done, or what a file becomes
cannot be written and the file is left empty. -/
inductive Stopped (index : Index) (path : String) : Failure → Tree → Tree → Prop
  | unread {t : Tree} {fault : FileFault} : t.read path = .error fault →
      Stopped index path (.ofRename path fault) t t
  | unwritten {t : Tree} {l : Location} {content : Octets} {d : Diff} :
      t.walk path = .ok (.file l content) → d ∈ (renameInContent path index content).diffs →
      Glyph.encodes d.new = false →
      Stopped index path (.unexplained .unencodable) t (t.place l (.file []))

theorem Renamed.left_of_error {done : Renamed UInt8} {e : Failure} (h : done.result = .error e) :
    e = .unexplained .unencodable ∧ done.left = [] ∧
      ∃ d ∈ done.diffs, Glyph.encodes d.new = false := by
  unfold result at h
  split at h
  · cases h
  · rename_i hall
    cases h
    refine ⟨rfl, if_neg hall, ?_⟩
    rw [Bool.not_eq_true, List.all_eq_false] at hall
    obtain ⟨d, hd, hencodes⟩ := hall
    exact ⟨d, hd, Bool.not_eq_true _ ▸ hencodes⟩

theorem stopped_of_renameAt {index : Index} {path : String} {t tree : Tree} {e : Failure}
    (h : Action.renameAt index path t = (.error e, tree)) : Stopped index path e t tree := by
  rcases renameAt_cases h with
    ⟨l, content, hw, hresult, rfl⟩ | ⟨-, hresult, -⟩ | ⟨fault, hread, hresult, rfl⟩
  · obtain ⟨rfl, hleft, d, hd, hencodes⟩ := Renamed.left_of_error hresult.symm
    rw [hleft]
    exact .unwritten hw hd hencodes
  · cases hresult
  · cases hresult
    exact .unread hread

theorem sameDirectories_renameAt {index : Index} {path : String} {t tree : Tree}
    {result : Except Failure (List Diff)} (h : Action.renameAt index path t = (result, tree)) :
    t.SameDirectories tree := by
  rcases renameAt_cases h with ⟨l, content, -, -, rfl⟩ | ⟨-, -, rfl⟩ | ⟨_, -, -, rfl⟩
  · exact Tree.sameDirectories_place t l _
  · exact .refl tree
  · exact .refl tree

/-- Every entry goes through one pass more if the path leads to it. -/
theorem node?_renameAt {index : Index} {path : String} {t tree : Tree} {diffs : List Diff}
    (h : Action.renameAt index path t = (.ok diffs, tree)) (l : Location) :
    tree.node? l = (t.node? l).map
      (Node.afterPasses index (if t.location? path = some l then 1 else 0)) := by
  have hzero : (t.node? l).map (Node.afterPasses index 0) = t.node? l := by
    cases t.node? l with
    | none => rfl
    | some node => rw [Option.map_some, Node.afterPasses_zero]
  rcases renameAt_ok_cases h with ⟨m, content, hw, -, rfl⟩ | ⟨hw, -, rfl⟩
  · have hnode := Tree.node?_of_walk hw
    have hloc := Tree.location_of_walk_file hw
    by_cases hm : l = m
    · subst hm
      rw [Tree.node?_place_self (Tree.admits_of_file hnode _), hnode, if_pos hloc, Option.map_some,
        Node.afterPasses, contentAfter, contentAfter, text_renameInContent_eq path ""]
    · have hne : ¬ t.location? path = some l := by
        rw [hloc, Option.some.injEq]
        exact fun e => hm e.symm
      rw [Tree.node?_place_of_ne t _ hm, if_neg hne, hzero]
  · have hne : ¬ tree.location? path = some l := by
      rw [Tree.location?, hw]
      simp
    rw [if_neg hne, hzero]

/-! ## All files -/

/-- Renaming in one file after the other: the diffs, and the tree after all of them. -/
inductive Renamings (index : Index) : List String → Tree → List Diff → Tree → Prop
  | nil (t : Tree) : Renamings index [] t [] t
  | cons {path : String} {rest : List String} {t t' t'' : Tree} {ds es : List Diff} :
      Action.renameAt index path t = (.ok ds, t') → Renamings index rest t' es t'' →
      Renamings index (path :: rest) t (ds ++ es) t''

namespace Renamings

variable {index : Index} {paths : List String} {t tree : Tree} {diffs : List Diff}

theorem sameDirectories (h : Renamings index paths t diffs tree) : t.SameDirectories tree := by
  induction h with
  | nil => exact .refl _
  | cons hfirst _ ih => exact (sameDirectories_renameAt hfirst).trans ih

/-- Every entry has gone through as many passes as paths lead to it. -/
theorem node?_eq (h : Renamings index paths t diffs tree) (l : Location) :
    tree.node? l = (t.node? l).map (Node.afterPasses index (t.timesListed paths l)) := by
  induction h with
  | nil t =>
    cases t.node? l with
    | none => rfl
    | some node => rw [Option.map_some, Tree.timesListed, List.countP_nil, Node.afterPasses_zero]
  | @cons path rest t t' t'' ds es hfirst _ ih =>
    have hsame := sameDirectories_renameAt hfirst
    have htimes : t.timesListed (path :: rest) l =
        t.timesListed rest l + if t.location? path = some l then 1 else 0 := by
      simp only [Tree.timesListed, List.countP_cons, decide_eq_true_eq]
    have hpasses (m n : Nat) (node : Node) : (node.afterPasses index n).afterPasses index m =
        node.afterPasses index (m + n) := by
      cases node with
      | file content => simp only [Node.afterPasses, contentAfter_add]
      | directory | device => rfl
    rw [ih, node?_renameAt hfirst, Option.map_map, Tree.timesListed_eq hsame, htimes]
    cases t.node? l with
    | none => rfl
    | some node => exact congrArg some (hpasses _ _ node)

end Renamings

end Restyle
