import Restyle.Proofs.Actions

/-!
# A renamed file

Whatever a file holds, well-formed UTF-8 or not, renaming in it comes to renaming its octets: lines
end at 0x0A, a selector is 0x2E with the longest run of ASCII name octets behind it, and a new name
is written as its UTF-8 octets. No other file changes. New names with lone surrogates have no octets,
so they are left out here.
-/

namespace Restyle

open Text

/-- New names that can be written are all that a renamed text needs. -/
theorem encodes_diffs {index : Index} (hnames : ∀ r ∈ index.renames, Glyph.encodes r.new = true)
    (file : String) (content : Octets) :
    (renameInContent file index content).diffs.all Diff.encodes = true := by
  rw [List.all_eq_true]
  intro d hd
  obtain ⟨r, hr, number, rfl⟩ := exists_rename_of_mem_diffs hd
  exact hnames r hr

theorem Renamed.of_encodes {done : Renamed UInt8} (h : done.diffs.all Diff.encodes = true) :
    done.result = .ok done.diffs ∧ done.left = done.text := by
  rw [result, left, if_pos h, if_pos h]
  exact ⟨rfl, rfl⟩

/-- The tree after renaming in a file: the renamed octets stand in its place, and the tree is the same
if nothing was renamed. -/
theorem exists_tree_renameAt {index : Index} {path : String} {t : Tree} {l : Location}
    {content : Octets} (h : t.walk path = .ok (.file l content))
    (hencodes : (renameInContent path index content).diffs.all Diff.encodes = true) :
    ∃ tree, Action.renameAt index path t = (.ok (renameInContent path index content).diffs, tree) ∧
      tree.read path = .ok (renameInContent path index content).text ∧
      tree.node? l = some (.file (renameInContent path index content).text) ∧
      (∀ m, m ≠ l → tree.node? m = t.node? m) ∧
      ((renameInContent path index content).diffs = [] → tree = t) := by
  have hnode := Tree.node?_of_walk h
  obtain ⟨hresult, hleft⟩ := Renamed.of_encodes hencodes
  rw [Action.renameAt_of_walk index h, hresult, hleft]
  refine ⟨_, rfl, Tree.read_place h _, ?_, ?_, fun hnone => ?_⟩
  · exact Tree.node?_place_self (Tree.admits_of_file hnode _)
  · exact fun m hm => Tree.node?_place_of_ne t _ hm
  · rw [text_of_no_diffs hnone, Tree.place_self hnode]

/-- **Octets.** If the new names can be written, renaming in a file gives the diffs of its octets and
leaves what they become, however malformed they are. The file grows by what the diffs add, and without
diffs nothing is touched. -/
theorem renameInFile_renames_octets (index : Index) (path : String) (s : Session) (l : Location)
    (content : Octets) (hnames : ∀ r ∈ index.renames, Glyph.encodes r.new = true)
    (h : s.tree.walk path = .ok (.file l content)) :
    let done : Renamed UInt8 := renameInContent path index content
    ∃ s', (Action.renameInFile index path).outcome s = (.ok done.diffs, s') ∧
      s'.tree.read path = .ok done.text ∧
      s'.tree.node? l = some (.file done.text) ∧
      (∀ m, m ≠ l → s'.tree.node? m = s.tree.node? m) ∧
      (done.text.length : Int) = content.length + (done.diffs.map fun d =>
        ((Glyph.toOctets d.new).length - (Glyph.toOctets d.old).length : Int)).sum ∧
      (done.diffs = [] → done.text = content ∧ s'.tree = s.tree) := by
  intro done
  obtain ⟨tree, hat, hread, hnode, hothers, hnone⟩ :=
    exists_tree_renameAt h (encodes_diffs hnames path content)
  obtain ⟨more, hout⟩ := Action.outcome_renameInFile index path s
  rw [hat] at hout
  refine ⟨s.later tree more, hout, hread, hnode, hothers, ?_, ?_⟩
  · exact length_renameInContent path index content
  · exact fun e => ⟨text_of_no_diffs e, hnone e⟩

/-- An encoding that is cut off before a selector, and a stray octet behind it. -/
theorem renameInFile_renames_malformed :
    let content : Octets := [0x2E, 0x61, 0x5F, 0x62, 0xC3, 0x2E, 0x61, 0x5F, 0x62, 0xE9, 0x0A]
    let s := Session.start (Tree.empty.place ["a.css"] (.file content)) [] Web.unreachable
    (∀ r ∈ (Index.ofList [⟨"a_b", "é"⟩]).renames, Glyph.encodes r.new = true) ∧
    ∃ s', (Action.renameInFile (Index.ofList [⟨"a_b", "é"⟩]) "a.css").outcome s =
        (.ok [⟨"a.css", 1, "a_b", "é"⟩, ⟨"a.css", 1, "a_b", "é"⟩], s') ∧
      s'.tree.read "a.css" = .ok [0x2E, 0xC3, 0xA9, 0xC3, 0x2E, 0xC3, 0xA9, 0xE9, 0x0A] := by
  intro content s
  have hwalk : s.tree.walk "a.css" = .ok (.file ["a.css"] content) := rfl
  have hnames : ∀ r ∈ (Index.ofList [⟨"a_b", "é"⟩]).renames, Glyph.encodes r.new = true := by
    decide +kernel
  obtain ⟨s', hout, hread, -⟩ := renameInFile_renames_octets (Index.ofList [⟨"a_b", "é"⟩]) "a.css"
    s ["a.css"] content hnames hwalk
  refine ⟨hnames, s', ?_, ?_⟩
  · rw [hout]
    have hdiffs : (renameInContent "a.css" (Index.ofList [⟨"a_b", "é"⟩]) content).diffs =
        [⟨"a.css", 1, "a_b", "é"⟩, ⟨"a.css", 1, "a_b", "é"⟩] := by decide +kernel
    rw [hdiffs]
  · rw [hread]
    have htext : (renameInContent "a.css" (Index.ofList [⟨"a_b", "é"⟩]) content).text =
        [0x2E, 0xC3, 0xA9, 0xC3, 0x2E, 0xC3, 0xA9, 0xE9, 0x0A] := by decide +kernel
    rw [htext]

end Restyle
