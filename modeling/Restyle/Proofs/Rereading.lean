import Restyle.Proofs.Glyphs
import Restyle.Proofs.Renamings

/-!
# File text that is read again

Not every sequence of glyphs can be read from a file: stray octets next to each other may spell a
character. `IsReadable` singles out those that can. An octet of ASCII ends whatever encoding is under
way before it, so a text is readable if its parts before and behind an ASCII character are
(`isReadable_append_cons`), and a character in front of a readable text makes no difference
(`isReadable_cons`). A replacement starts at a dot and ends behind a character, so it keeps a text
readable (`Replaced.isReadable`), and with it do whole files. So a file holds the very text that was
computed for it, and passes over a file are passes over its text (`file_text_reads_back`).
-/

namespace Restyle

open Script Text

namespace Text

/-! ## Decoding from the middle -/

theorem begin_ascii {b : UInt8} (h : b < 0x80) :
    begin b = ([.char (Char.ofNat b.toNat)], none) := by
  rw [begin, if_pos h]

/-- An octet of ASCII ends an encoding under way like the end of all octets does. -/
theorem decodeFrom_ascii_cons {under : Option Pending} (hunder : ∀ p, under = some p → p.Sound)
    {b : UInt8} (hb : b < 0x80) (rest : Octets) :
    decodeFrom under (b :: rest) =
      decodeFrom under [] ++ .char (Char.ofNat b.toNat) :: decodeFrom none rest := by
  cases under with
  | none =>
    show (begin b).1 ++ decodeFrom (begin b).2 rest = _
    rw [begin_ascii hb]
    rfl
  | some p =>
    -- No octet of ASCII continues an encoding.
    have hout : ¬ (p.low ≤ b ∧ b ≤ p.high) := by
      intro hrange
      have hle := UInt8.le_trans (hunder p rfl).range.1 hrange.1
      exact UInt8.not_lt.2 hle hb
    simp only [decodeFrom, advance, if_neg hout, begin_ascii hb]
    rfl

/-- Behind an octet of ASCII the machine starts afresh. -/
theorem decodeFrom_append_cons {b : UInt8} (hb : b < 0x80) (front rest : Octets) :
    ∀ {under : Option Pending}, (∀ p, under = some p → p.Sound) →
      decodeFrom under (front ++ b :: rest) =
        decodeFrom under front ++ .char (Char.ofNat b.toNat) :: decodeFrom none rest := by
  induction front with
  | nil => exact fun hunder => decodeFrom_ascii_cons hunder hb rest
  | cons a front ih =>
    intro under hunder
    have hstep (octets : Octets) : decodeFrom under (a :: octets) =
        (advance under a).1 ++ decodeFrom (advance under a).2 octets := by
      cases under <;> rfl
    rw [List.cons_append, hstep, hstep, ih (faithful_advance hunder a).sound, List.append_assoc]

namespace Glyph

theorem ofOctets_append_cons {b : UInt8} (hb : b < 0x80) (front rest : Octets) :
    ofOctets (front ++ b :: rest) =
      ofOctets front ++ .char (Char.ofNat b.toNat) :: ofOctets rest := by
  rw [ofOctets_eq, decode, decodeFrom_append_cons hb front rest (by simp), List.flatMap_append,
    List.flatMap_cons]
  rfl

theorem ofOctets_encode_append (c : Char) (rest : Octets) :
    ofOctets (String.utf8EncodeChar c ++ rest) = .char c :: ofOctets rest := by
  rw [ofOctets_eq, decode, decodeFrom_encode, List.flatMap_cons]
  rfl

/-! ## Readable text -/

/-- The text is read from its own octets. -/
def IsReadable (text : List Glyph) : Prop :=
  ofOctets (toOctets text) = text

theorem isReadable_ofOctets (bytes : Octets) : IsReadable (ofOctets bytes) := by
  rw [IsReadable, toOctets_ofOctets]

theorem isReadable_cons {c : Char} {rest : List Glyph} :
    IsReadable (.char c :: rest) ↔ IsReadable rest := by
  rw [IsReadable, toOctets_cons, octets, ofOctets_encode_append, List.cons.injEq, eq_self, true_and]
  rfl

theorem isReadable_append_of_areChars {text rest : List Glyph} (h : AreChars text) :
    IsReadable (text ++ rest) ↔ IsReadable rest := by
  induction text with
  | nil => rfl
  | cons g text ih =>
    rw [AreChars, List.forall_mem_cons] at h
    obtain ⟨⟨c, rfl⟩, htext⟩ := h
    rw [← ih htext]
    exact isReadable_cons

theorem eq_nil_of_toOctets {text : List Glyph} (h : toOctets text = []) : text = [] := by
  cases text with
  | nil => rfl
  | cons g rest =>
    rw [toOctets_cons, List.append_eq_nil_iff] at h
    exact absurd h.1 g.octets_ne_nil

/-- Texts that begin the same text are equal if they have the same octets. -/
theorem eq_of_prefix {front front' text : List Glyph} (h : front <+: text) (h' : front' <+: text)
    (hocts : toOctets front = toOctets front') : front = front' := by
  have extend {x y : List Glyph} (hxy : x <+: y) (hocts : toOctets x = toOctets y) : x = y := by
    obtain ⟨more, rfl⟩ := hxy
    rw [toOctets_append] at hocts
    rw [eq_nil_of_toOctets (List.self_eq_append_right.1 hocts), List.append_nil]
  rcases List.prefix_or_prefix_of_prefix h h' with h | h
  · exact extend h hocts
  · exact (extend h hocts.symm).symm

/-- A text is readable if its parts around a character of ASCII are. -/
theorem isReadable_append_cons {c : Char} (hc : c.toNat < 0x80) {front rest : List Glyph} :
    IsReadable (front ++ .char c :: rest) ↔ IsReadable front ∧ IsReadable rest := by
  have hnat : (UInt8.ofNat c.toNat).toNat = c.toNat := toNat_ofNat_of_lt (by omega)
  have hlt : UInt8.ofNat c.toNat < 0x80 := UInt8.lt_iff_toNat_lt.2 (by rw [hnat]; exact hc)
  have hread : ofOctets (toOctets (front ++ .char c :: rest)) =
      ofOctets (toOctets front) ++ .char c :: ofOctets (toOctets rest) := by
    rw [toOctets_append, toOctets_cons, octets, utf8EncodeChar_of_lt hc, List.singleton_append,
      ofOctets_append_cons hlt, hnat, Char.ofNat_toNat]
  rw [IsReadable, hread]
  constructor
  · intro h
    -- The octets tell how far the front reaches, so the two sides have the same one.
    have hfront : ofOctets (toOctets front) = front :=
      eq_of_prefix ⟨_, h⟩ (List.prefix_append _ _) (toOctets_ofOctets _)
    rw [hfront] at h
    exact ⟨hfront, (List.cons.inj (List.append_cancel_left h)).2⟩
  · rintro ⟨hfront, hrest⟩
    rw [hfront, hrest]

end Glyph

end Text

open Glyph

/-! ## Renamed text -/

/-- Names of classes are made of characters. -/
theorem areChars_of_isName {name : List Glyph} (h : IsName name) : AreChars name := by
  intro g hg
  obtain ⟨c, rfl, -⟩ := exists_char_of_isName_glyph (h.2 g hg)
  exact ⟨c, rfl⟩

/-- A replacement begins with a dot and ends behind a character, as what it replaces does. -/
theorem Replaced.isReadable {r : Rename} {before rest line line' : List Glyph}
    (h : Replaced r before rest line line') (hold : IsName r.old) (hnew : AreChars r.new)
    (hline : IsReadable line) : IsReadable line' := by
  obtain ⟨b, a, hocc, -, rfl⟩ := h.replaced
  have hdot : ('.' : Char).toNat < 0x80 := by decide
  have hcut {name : List Glyph} (hname : AreChars name) (more : List Glyph) :
      IsReadable (b ++ .char '.' :: name ++ more) ↔ IsReadable b ∧ IsReadable more := by
    rw [List.append_assoc, List.cons_append]
    exact (isReadable_append_cons hdot).trans
      (and_congr_right fun _ => isReadable_append_of_areChars hname)
  have htext := hocc.text_eq
  rw [write_glyph, Rename.oldSelector] at htext
  rw [htext, hcut (areChars_of_isName hold)] at hline
  rw [write_glyph, Rename.newSelector, hcut hnew]
  exact hline

theorem Replacements.isReadable {rs : List Rename} {line line' : List Glyph}
    (h : Replacements rs line line') (hnames : ∀ r ∈ rs, IsName r.old ∧ AreChars r.new)
    (hline : IsReadable line) : IsReadable line' := by
  induction h with
  | nil => exact hline
  | cons hstep _ ih =>
    rw [List.forall_mem_cons] at hnames
    exact ih hnames.2 (hstep.isReadable hnames.1.1 hnames.1.2 hline)

/-- The new names of an index are made of characters. -/
def Index.GivesChars (index : Index) : Prop :=
  ∀ r ∈ index.renames, AreChars r.new

instance : DecidablePred Index.GivesChars := fun index =>
  List.decidableBAll (fun r : Rename => AreChars r.new) index.renames

theorem Index.GivesChars.of_asked {index : Index} (hindex : index.GivesChars) {text : List Glyph}
    {r : Rename} (h : r ∈ asked index (segments text)) : IsName r.old ∧ AreChars r.new :=
  ⟨isName_of_asked h, hindex r (mem_of_mem_asked h)⟩

/-- Renaming keeps a text readable. -/
theorem isReadable_renameInContent (file : String) {index : Index} (hindex : index.GivesChars)
    {text : List Glyph} (h : IsReadable text) : IsReadable (renameInContent file index text).text := by
  refine content_induction (motive := fun text _ text' => IsReadable text → IsReadable text')
    (fun number line => ?_) ?_ text h
  · have hmade := replacements_renameInLine file number index line
    exact hmade.isReadable fun r hr => hindex.of_asked hr
  · intro left ds left' right es right' hleft hright hjoined
    have hnewline : ('\n' : Char).toNat < 0x80 := by decide
    obtain ⟨hl, hr⟩ := (isReadable_append_cons hnewline).1 hjoined
    exact (isReadable_append_cons hnewline).2 ⟨hleft hl, hright hr⟩

/-- The renamed octets are read as the renamed text. -/
theorem ofOctets_renameInContent (file : String) {index : Index} (hindex : index.GivesChars)
    (content : Octets) : ofOctets (renameInContent file index content).text =
      (renameInContent file index (ofOctets content)).text := by
  rw [Action.renameInContent_ofOctets]
  exact isReadable_renameInContent file hindex (isReadable_ofOctets content)

theorem diffs_renameInContent_ofOctets (file : String) (index : Index) (content : Octets) :
    (renameInContent file index content).diffs =
      (renameInContent file index (ofOctets content)).diffs := by
  rw [Action.renameInContent_ofOctets]
  rfl

/-- The text of a file has as many newlines as its octets. -/
theorem length_splitOn_ofOctets (content : Octets) :
    (splitOn newline (ofOctets content)).length = content.count newline + 1 := by
  have hlines := splitOn_toOctets (ofOctets content)
  rw [toOctets_ofOctets] at hlines
  rw [← length_splitOn, hlines, List.length_map]

/-! ## Passes over a file -/

section Passes

variable {α : Type} [DecidableEq α] [Script α]

/-- A text after passes, each with an index of its own. -/
def textAfter (file : String) : List Index → List α → List α
  | [], text => text
  | index :: rest, text => textAfter file rest (renameInContent file index text).text

/-- The diffs of each pass. -/
def diffsOfEach (file : String) : List Index → List α → List (List Diff)
  | [], _ => []
  | index :: rest, text => (renameInContent file index text).diffs ::
      diffsOfEach file rest (renameInContent file index text).text

end Passes

/-- The tree after renaming in a file has the renamed octets in its place. -/
theorem renameAt_eq_place {index : Index} (hindex : index.GivesChars) {path : String} {t : Tree}
    {l : Location} {content : Octets} (h : t.walk path = .ok (.file l content)) :
    Action.renameAt index path t = (.ok (renameInContent path index content).diffs,
      t.place l (.file (renameInContent path index content).text)) := by
  have hnames : ∀ r ∈ index.renames, encodes r.new = true :=
    fun r hr => encodes_of_areChars (hindex r hr)
  obtain ⟨hresult, hleft⟩ := Renamed.of_encodes (encodes_diffs hnames path content)
  rw [Action.renameAt_of_walk index h, hresult, hleft]

namespace Action

/-- One pass over a file: its diffs are those of its text, and the path leads to the same file, where
the renamed text is read. -/
theorem outcome_renameInFile_text {index : Index} (hindex : index.GivesChars) {path : String}
    {s : Session} {l : Location} {content : Octets} (h : s.tree.walk path = .ok (.file l content)) :
    ∃ s' content', (renameInFile index path).outcome s =
        (.ok (renameInContent path index (ofOctets content)).diffs, s') ∧
      s'.tree.walk path = .ok (.file l content') ∧
      ofOctets content' = (renameInContent path index (ofOctets content)).text := by
  obtain ⟨more, hout⟩ := outcome_renameInFile index path s
  rw [renameAt_eq_place hindex h] at hout
  refine ⟨s.later (s.tree.place l (.file (renameInContent path index content).text)) more,
    (renameInContent path index content).text, ?_, ?_, ofOctets_renameInContent path hindex content⟩
  · rw [← diffs_renameInContent_ofOctets]
    exact hout
  · rw [Session.tree_later, Tree.walk_place (Tree.node?_of_walk h), h, Except.map,
      Tree.Place.withContent, if_pos rfl]

/-- Passes over a file, one after the other, are passes over its text. -/
theorem outcome_passes {indexes : List Index} (hindexes : ∀ index ∈ indexes, index.GivesChars)
    {path : String} {s : Session} {l : Location} {content : Octets}
    (h : s.tree.walk path = .ok (.file l content)) :
    ∃ s' content', (indexes.mapM fun index => renameInFile index path).outcome s =
        (.ok (diffsOfEach path indexes (ofOctets content)), s') ∧
      s'.tree.walk path = .ok (.file l content') ∧
      ofOctets content' = textAfter path indexes (ofOctets content) := by
  induction indexes generalizing s content with
  | nil => exact ⟨s, content, rfl, h, rfl⟩
  | cons index rest ih =>
    rw [List.forall_mem_cons] at hindexes
    obtain ⟨s₁, content₁, hfirst, hwalk, htext⟩ := outcome_renameInFile_text hindexes.1 h
    obtain ⟨s₂, content₂, hrest, hwalk', htext'⟩ := ih hindexes.2 hwalk
    rw [htext] at hrest htext'
    refine ⟨s₂, content₂, ?_, hwalk', htext'⟩
    rw [List.mapM_cons, outcome_bind_ok hfirst, outcome_bind_ok hrest]
    rfl

/-- Writing the text of some octets is writing these octets. -/
theorem outcome_writeText_ofOctets (explain : FileFault → Failure) {target : String}
    {content : Octets} {s : Session} {tree : Tree} (h : s.tree.write target content = .ok tree) :
    (writeText target (ofOctets content) explain).outcome s = (.ok (), s.later tree []) := by
  obtain ⟨emptied, hfirst, hsecond⟩ := Tree.write_write h []
  have hfirst := outcome_change_ok explain (fun t => t.write target []) hfirst
  have hsecond := outcome_change_ok explain (fun t => t.write target content)
    (s := s.later emptied []) hsecond
  unfold writeText
  rw [outcome_bind_ok hfirst, encode?, if_pos (encodes_ofOctets content), toOctets_ofOctets]
  rw [Session.later_later] at hsecond
  exact hsecond

/-- Writing back what was read changes nothing. -/
theorem outcome_writeText_back (explain : FileFault → Failure) {path : String} {s : Session}
    {l : Location} {content : Octets} (h : s.tree.walk path = .ok (.file l content)) :
    (writeText path (ofOctets content) explain).outcome s = (.ok (), s) := by
  have hwrite := Tree.write_of_walk h content
  rw [Tree.place_self (Tree.node?_of_walk h)] at hwrite
  rw [outcome_writeText_ofOctets explain hwrite, s.later_self]

end Action

/-- **Reading again.** The text of a file has all of its octets: written anywhere it gives them back,
and written into the file it changes nothing. It has one line more than there are octets 0x0A. If the
new names are made of characters, what is read from a file after renaming in it is the very text that
was computed, with its diffs; and after any number of passes, each with an index of its own, it is the
text after these passes. -/
theorem file_text_reads_back (path : String) (s : Session) (l : Location) (content : Octets)
    (h : s.tree.walk path = .ok (.file l content)) (explain : FileFault → Failure) :
    let text := ofOctets content
    (Action.readText path explain).outcome s = (.ok text, s) ∧
    toOctets text = content ∧
    (Action.writeText path text explain).outcome s = (.ok (), s) ∧
    (∀ target tree, s.tree.write target content = .ok tree →
      (Action.writeText target text explain).outcome s = (.ok (), s.later tree [])) ∧
    (splitOn newline text).length = content.count 0x0A + 1 ∧
    (∀ index : Index, index.GivesChars → ∃ s', (Action.renameInFile index path).outcome s =
        (.ok (renameInContent path index text).diffs, s') ∧
      (Action.readText path explain).outcome s' =
        (.ok (renameInContent path index text).text, s')) ∧
    ∀ indexes : List Index, (∀ index ∈ indexes, index.GivesChars) → ∃ s',
      (indexes.mapM fun index => Action.renameInFile index path).outcome s =
        (.ok (diffsOfEach path indexes text), s') ∧
      (Action.readText path explain).outcome s' = (.ok (textAfter path indexes text), s') := by
  intro text
  have hread {s' : Session} {content' : Octets} (h' : s'.tree.walk path = .ok (.file l content')) :
      (Action.readText path explain).outcome s' = (.ok (ofOctets content'), s') :=
    Action.outcome_readText_ok (Tree.read_of_walk h')
  refine ⟨hread h, toOctets_ofOctets content, Action.outcome_writeText_back explain h,
    fun target tree => Action.outcome_writeText_ofOctets explain, length_splitOn_ofOctets content,
    fun index hindex => ?_, fun indexes hindexes => ?_⟩
  · obtain ⟨s', content', hout, hwalk, htext⟩ := Action.outcome_renameInFile_text hindex h
    exact ⟨s', hout, htext ▸ hread hwalk⟩
  · obtain ⟨s', content', hout, hwalk, htext⟩ := Action.outcome_passes hindexes h
    exact ⟨s', hout, htext ▸ hread hwalk⟩

/-- Cut-off encodings, a continuation, an overlong form and a surrogate around selectors, of which the
second pass leaves the dots. -/
theorem file_text_reads_back_malformed :
    let content : Octets := [0xC3, 0x2E, 0x61, 0x5F, 0x62, 0xA9, 0x0A, 0xE2, 0x82, 0x2E, 0x61, 0x5F,
      0x62, 0xC0, 0xAF, 0xED, 0xA0, 0x80]
    let s := Session.start (Tree.empty.place ["a.css"] (.file content)) [] Web.unreachable
    let indexes := [Index.ofList [⟨"a_b", "x-y"⟩], Index.ofList [⟨"x-y", ""⟩]]
    ∃ s', (indexes.mapM fun index => Action.renameInFile index "a.css").outcome s =
        (.ok [[⟨"a.css", 1, "a_b", "x-y"⟩, ⟨"a.css", 2, "a_b", "x-y"⟩],
          [⟨"a.css", 1, "x-y", ""⟩, ⟨"a.css", 2, "x-y", ""⟩]], s') ∧
      (Action.readText "a.css" (.ofRename "a.css")).outcome s' =
        (.ok [.stray 0xC3, .char '.', .stray 0xA9, .char '\n', .stray 0xE2, .stray 0x82, .char '.',
          .stray 0xC0, .stray 0xAF, .stray 0xED, .stray 0xA0, .stray 0x80], s') := by
  intro content s indexes
  have hwalk : s.tree.walk "a.css" = .ok (.file ["a.css"] content) := rfl
  obtain ⟨-, -, -, -, -, -, hpasses⟩ :=
    file_text_reads_back "a.css" s ["a.css"] content hwalk (.ofRename "a.css")
  have hindexes : ∀ index ∈ indexes, index.GivesChars := by decide +kernel
  obtain ⟨s', hout, hread⟩ := hpasses indexes hindexes
  refine ⟨s', ?_, ?_⟩
  · rw [hout]
    have hdiffs : diffsOfEach "a.css" indexes (ofOctets content) =
        [[⟨"a.css", 1, "a_b", "x-y"⟩, ⟨"a.css", 2, "a_b", "x-y"⟩],
          [⟨"a.css", 1, "x-y", ""⟩, ⟨"a.css", 2, "x-y", ""⟩]] := by decide +kernel
    rw [hdiffs]
  · rw [hread]
    have htext : textAfter "a.css" indexes (ofOctets content) =
        [.stray 0xC3, .char '.', .stray 0xA9, .char '\n', .stray 0xE2, .stray 0x82, .char '.',
          .stray 0xC0, .stray 0xAF, .stray 0xED, .stray 0xA0, .stray 0x80] := by decide +kernel
    rw [htext]

end Restyle
