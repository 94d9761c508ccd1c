import Restyle.Proofs.Accounting
import Restyle.Proofs.RoundTrip

/-!
# Renaming among octets

Renaming file text and then writing its octets is the same as renaming the octets themselves
(`renameInContent_toOctets`). All that renaming looks at belongs to ASCII, and an octet of ASCII is
always a glyph of its own (`Glyph.eq_of_mem_octets`): it is never part of a longer encoding and never
stray. So selectors, lines and occurrences are the same on both sides.
-/

namespace Restyle

open Script Text

namespace Text.Glyph

@[simp] theorem toOctets_nil : toOctets [] = [] := rfl

@[simp] theorem toOctets_cons (g : Glyph) (text : List Glyph) :
    toOctets (g :: text) = g.octets ++ toOctets text := rfl

@[simp] theorem toOctets_append (text more : List Glyph) :
    toOctets (text ++ more) = toOctets text ++ toOctets more :=
  List.flatMap_append

@[simp] theorem octets_dot : octets dot = [dot] := by decide

@[simp] theorem octets_newline : octets newline = [newline] := by decide

theorem eq_dot_of_mem {g : Glyph} (h : dot ∈ g.octets) : g = dot :=
  eq_of_mem_octets h (by decide)

theorem eq_newline_of_mem {g : Glyph} (h : newline ∈ g.octets) : g = newline :=
  eq_of_mem_octets h (by decide)

/-- A name octet is a name glyph. -/
theorem isName_of_mem {g : Glyph} {b : UInt8} (hb : b ∈ g.octets) (hname : isName b = true) :
    isName g = true := by
  obtain ⟨c, hc, honly⟩ := Script.exists_char_of_isName b hname
  rw [honly g hb]
  exact hc

end Text.Glyph

/-! ## Names and segments -/

/-- Octets do not go on with a name where the glyphs do not. -/
theorem EndsName.toOctets {text : List Glyph} (h : EndsName text) :
    EndsName (Glyph.toOctets text) := by
  cases text with
  | nil => exact endsName_nil
  | cons g rest =>
    obtain ⟨b, bs, hocts⟩ := List.exists_cons_of_ne_nil g.octets_ne_nil
    rw [Glyph.toOctets_cons, hocts]
    refine endsName_cons ?_
    cases hb : isName b with
    | false => rfl
    | true =>
      have hmem : b ∈ g.octets := by rw [hocts]; exact List.mem_cons_self
      have hname := Glyph.isName_of_mem hmem hb
      rw [h g rest rfl] at hname
      exact hname.symm

/-- The segments of the octets of a segment. -/
def Segment.octets : Segment Glyph → List (Segment UInt8)
  | .symbol g => g.octets.map .symbol
  | .selector name => [.selector (Glyph.toOctets name)]

/-- The segments of octets. -/
def octetSegments (segs : List (Segment Glyph)) : List (Segment UInt8) :=
  segs.flatMap Segment.octets

theorem textOf_symbols (bs : Octets) (segs : List (Segment UInt8)) :
    textOf (bs.map .symbol ++ segs) = bs ++ textOf segs := by
  induction bs with
  | nil => rfl
  | cons b bs ih => rw [List.map_cons, List.cons_append, textOf_symbol, ih, List.cons_append]

theorem textOf_octetSegments (segs : List (Segment Glyph)) :
    textOf (octetSegments segs) = Glyph.toOctets (textOf segs) := by
  induction segs with
  | nil => rfl
  | cons seg segs ih =>
    rw [octetSegments, List.flatMap_cons]
    cases seg with
    | symbol g =>
      rw [Segment.octets, textOf_symbols, textOf_symbol, Glyph.toOctets_cons, ← ih]
      rfl
    | selector name =>
      rw [Segment.octets, textOf_selector, Glyph.toOctets_cons, Glyph.toOctets_append, ← ih]
      simp [octetSegments]

theorem wellCut_symbols {bs : Octets} {segs : List (Segment UInt8)} (hdot : dot ∉ bs)
    (h : WellCut segs) : WellCut (bs.map .symbol ++ segs) := by
  induction bs with
  | nil => exact h
  | cons b bs ih =>
    rw [List.mem_cons, not_or] at hdot
    exact .symbol (fun e => absurd e.symm hdot.1) (ih hdot.2)

theorem WellCut.octets {segs : List (Segment Glyph)} (h : WellCut segs) :
    WellCut (octetSegments segs) := by
  induction h with
  | nil => exact .nil
  | @symbol g rest hend _ ih =>
    by_cases hdot : g = dot
    · -- A dot that stands alone: no name begins behind it among the octets either.
      subst hdot
      have hend' := (hend rfl).toOctets
      rw [← textOf_octetSegments] at hend'
      exact .symbol (fun _ => hend') ih
    · -- Any other symbol has no dot among its octets, however many it takes.
      have hnone : dot ∉ g.octets := fun hmem => hdot (Glyph.eq_dot_of_mem hmem)
      exact wellCut_symbols hnone ih
  | @selector name rest hname hend _ ih =>
    have hend' := hend.toOctets
    rw [← textOf_octetSegments] at hend'
    exact .selector hname.write hend' ih

/-- Octets are cut where the glyphs are. -/
theorem segments_toOctets (text : List Glyph) :
    segments (Glyph.toOctets text) = octetSegments (segments text) := by
  rw [← segments_textOf (wellCut_segments text).octets, textOf_octetSegments, textOf_segments]

/-- A selector is known among octets if it is known among glyphs, under the same rename. -/
theorem find?_toOctets (index : Index) {name : List Glyph} (h : IsName name) :
    index.find? (dot :: Glyph.toOctets name) = index.find? (dot :: name) := by
  have hold (r : Rename) : Script.write r.old = Glyph.toOctets name ↔ Script.write r.old = name := by
    rw [write_glyph]
    constructor
    · exact fun hwrite => (write_inj_of_isName h.2 hwrite.symm).symm
    · rintro rfl
      rfl
  simp only [Index.find?, Rename.write_oldSelector_eq, hold]

theorem filterMap_symbols (index : Index) (bs : Octets) :
    (bs.map Segment.symbol).filterMap (Segment.rename? index) = [] := by
  rw [List.filterMap_map, List.filterMap_eq_nil_iff]
  exact fun _ _ => rfl

/-- The same renames are asked for. -/
theorem asked_toOctets (index : Index) (text : List Glyph) :
    asked index (segments (Glyph.toOctets text)) = asked index (segments text) := by
  rw [segments_toOctets]
  have hnames : ∀ name, Segment.selector name ∈ segments text → IsName name :=
    fun _ hmem => (wellCut_segments text).isName hmem
  generalize segments text = segs at hnames
  -- A symbol asks for nothing on either side, so only selectors count.
  induction segs with
  | nil => rfl
  | cons seg segs ih =>
    have hrest := ih fun name hmem => hnames name (List.mem_cons_of_mem _ hmem)
    rw [octetSegments, List.flatMap_cons, asked_append]
    cases seg with
    | symbol g =>
      rw [asked, Segment.octets, filterMap_symbols]
      exact hrest
    | selector name =>
      have hfind := find?_toOctets index (hnames name List.mem_cons_self)
      have hsame :
          asked index (Segment.octets (.selector name)) = asked index [.selector name] := by
        simp only [asked, Segment.octets, List.filterMap_cons, List.filterMap_nil,
          Segment.rename?, hfind]
      rw [hsame]
      exact hrest ▸ (asked_append index [.selector name] segs).symm

/-! ## Occurrences -/

/-- Octets that begin with a name are those of glyphs that begin with it. -/
theorem exists_tail_of_toOctets {name rest : List Glyph} {after : Octets}
    (hname : ∀ g ∈ name, isName g = true)
    (h : Glyph.toOctets rest = Glyph.toOctets name ++ after) :
    ∃ tail, rest = name ++ tail ∧ after = Glyph.toOctets tail := by
  obtain ⟨tail, rfl⟩ : name <+: rest := prefix_of_write (α := UInt8) hname ⟨after, h.symm⟩
  rw [Glyph.toOctets_append] at h
  exact ⟨tail, rfl, (List.append_cancel_left h).symm⟩

/-- An occurrence of a selector among octets is one among the glyphs. -/
theorem exists_occurrence_of_toOctets {name text : List Glyph} {b a : Octets}
    (hname : ∀ g ∈ name, isName g = true)
    (h : Glyph.toOctets text = b ++ Glyph.toOctets (dot :: name) ++ a) :
    ∃ before after, text = before ++ (dot :: name) ++ after ∧
      b = Glyph.toOctets before ∧ a = Glyph.toOctets after := by
  rw [Glyph.toOctets_cons, Glyph.octets_dot, List.append_assoc] at h
  induction text generalizing b with
  | nil => simp at h
  | cons g text ih =>
    rw [Glyph.toOctets_cons] at h
    rcases List.append_eq_append_iff.1 h with ⟨more, rfl, hmore⟩ | ⟨more, hocts, hmore⟩
    · -- The occurrence lies behind the first glyph.
      obtain ⟨before, after, rfl, rfl, rfl⟩ := ih hmore
      exact ⟨g :: before, after, rfl, rfl, rfl⟩
    · cases more with
      | nil =>
        -- It starts right behind it.
        obtain ⟨before, after, rfl, hb, rfl⟩ := ih (b := []) hmore.symm
        refine ⟨g :: before, after, rfl, ?_, rfl⟩
        rw [Glyph.toOctets_cons, ← hb, hocts, List.append_nil, List.append_nil]
      | cons d more =>
        -- It starts within the first glyph, which is then the dot.
        rw [List.append_assoc, List.singleton_append, List.cons_append] at hmore
        obtain ⟨rfl, hbehind⟩ := List.cons.inj hmore
        obtain rfl : g = dot := Glyph.eq_dot_of_mem (by rw [hocts]; simp)
        rw [Glyph.octets_dot] at hocts
        have hlen := congrArg List.length hocts
        simp only [List.length_append, List.length_cons, List.length_nil] at hlen
        obtain rfl : b = [] := List.eq_nil_of_length_eq_zero (by omega)
        obtain rfl : more = [] := List.eq_nil_of_length_eq_zero (by omega)
        obtain ⟨tail, rfl, rfl⟩ := exists_tail_of_toOctets hname hbehind.symm
        exact ⟨[], tail, rfl, rfl, rfl⟩

/-- The first occurrence of a selector is at the same place among octets. -/
theorem FirstOccurrence.toOctets {name before after text : List Glyph}
    (hname : ∀ g ∈ name, isName g = true) (h : FirstOccurrence (dot :: name) before after text) :
    FirstOccurrence (Glyph.toOctets (dot :: name)) (Glyph.toOctets before)
      (Glyph.toOctets after) (Glyph.toOctets text) := by
  refine ⟨?_, ?_⟩
  · rw [h.text_eq, Glyph.toOctets_append, Glyph.toOctets_append]
  · intro b a hocc
    obtain ⟨before', after', htext', rfl, rfl⟩ := exists_occurrence_of_toOctets hname hocc
    have hle := h.first before' after' htext'
    -- Both beginnings are beginnings of the same text.
    have hpre : before <+: text := ⟨_, by rw [h.text_eq, List.append_assoc]⟩
    have hpre' : before' <+: text := ⟨_, by rw [htext', List.append_assoc]⟩
    obtain ⟨more, rfl⟩ := List.prefix_of_prefix_length_le hpre hpre' hle
    rw [Glyph.toOctets_append, List.length_append]
    exact Nat.le_add_right _ _

/-! ## Renaming -/

/-- A replacement is the same among octets. -/
theorem Replaced.toOctets {r : Rename} {before rest line line' : List Glyph} (hold : IsName r.old)
    (h : Replaced r before rest line line') :
    applyRename (Glyph.toOctets line) r = Glyph.toOctets line' := by
  obtain ⟨b, a, hocc, -, rfl⟩ := h.replaced
  rw [write_glyph] at hocc
  have hfirst : FirstOccurrence (write r.oldSelector) (Glyph.toOctets b)
      (Glyph.toOctets (a ++ rest)) (Glyph.toOctets line) := FirstOccurrence.toOctets hold.2 hocc
  rw [applyRename, replaceFirst_eq r.write_oldSelector_ne_nil hfirst, write_octet, write_glyph]
  simp only [Glyph.toOctets_append]

theorem Replacements.toOctets {rs : List Rename} {line line' : List Glyph}
    (h : Replacements rs line line') (hold : ∀ r ∈ rs, IsName r.old) :
    rs.foldl applyRename (Glyph.toOctets line) = Glyph.toOctets line' := by
  induction h with
  | nil => rfl
  | cons hstep _ ih =>
    rw [List.foldl_cons, hstep.toOctets (hold _ List.mem_cons_self)]
    exact ih fun r hr => hold r (List.mem_cons_of_mem _ hr)

/-- A renamed text, written in octets. -/
def Renamed.toOctets (done : Renamed Glyph) : Renamed UInt8 :=
  ⟨Glyph.toOctets done.text, done.diffs⟩

/-- The old names that a text asks for are names indeed. -/
theorem isName_of_asked {α : Type} [DecidableEq α] [Script α] {index : Index} {text : List α}
    {r : Rename} (h : r ∈ asked index (segments text)) : IsName r.old := by
  obtain ⟨seg, hmem, hseg⟩ := List.mem_filterMap.1 h
  cases seg with
  | symbol g => cases hseg
  | selector name =>
    have hold := Rename.write_oldSelector_eq.1 (Index.write_of_find? hseg)
    exact .of_write (hold ▸ (wellCut_segments text).isName hmem)

theorem renameInLine_toOctets (file : String) (number : Int) (index : Index) (line : List Glyph) :
    renameInLine file number index (Glyph.toOctets line) =
      (renameInLine file number index line).toOctets := by
  have hmade := replacements_renameInLine file number index line
  rw [renameInLine_eq, Renamed.toOctets, lineAfter, asked_toOctets,
    hmade.toOctets fun r hr => isName_of_asked hr, renameInLine_eq file number index line]

theorem renameInLines_toOctets (file : String) (index : Index) (number : Int)
    (lines : List (List Glyph)) :
    renameInLines file index number (lines.map Glyph.toOctets) =
      (renameInLines file index number lines).map Renamed.toOctets := by
  induction lines generalizing number with
  | nil => rfl
  | cons line rest ih =>
    rw [List.map_cons, renameInLines, renameInLines, List.map_cons, renameInLine_toOctets, ih]

theorem toOctets_joinWith (lines : List (List Glyph)) :
    Glyph.toOctets (joinWith newline lines) = joinWith newline (lines.map Glyph.toOctets) := by
  refine map_joinWith rfl ?_ lines
  intro line rest
  rw [Glyph.toOctets_append, Glyph.toOctets_cons, Glyph.octets_newline, List.singleton_append]

/-- Octets have the same lines as the glyphs. -/
theorem splitOn_toOctets (text : List Glyph) :
    splitOn newline (Glyph.toOctets text) = (splitOn newline text).map Glyph.toOctets := by
  have hjoin : Glyph.toOctets text =
      joinWith newline ((splitOn newline text).map Glyph.toOctets) := by
    rw [← toOctets_joinWith, joinWith_splitOn]
  rw [hjoin]
  -- No line has a newline among its octets, so these are the lines of the joined octets.
  refine splitOn_joinWith ?_ ?_
  · rw [Ne, List.map_eq_nil_iff]
    exact splitOn_ne_nil newline text
  · intro octets hoctets hmem
    obtain ⟨line, hline, rfl⟩ := List.mem_map.1 hoctets
    obtain ⟨g, hg, hin⟩ := List.mem_flatMap.1 hmem
    exact (mem_of_mem_splitOn hline g hg).2 (Glyph.eq_newline_of_mem hin)

/-- Renaming file text and writing its octets is renaming the octets. -/
theorem renameInContent_toOctets (file : String) (index : Index) (text : List Glyph) :
    renameInContent file index (Glyph.toOctets text) =
      (renameInContent file index text).toOctets := by
  rw [renameInContent, splitOn_toOctets, renameInLines_toOctets,
    renameInContent, Renamed.toOctets, toOctets_joinWith, List.map_map, List.map_map,
    List.flatMap_map]
  rfl

/-! ## Text that can be written -/

namespace Text.Glyph

theorem encodes_append (text more : List Glyph) :
    encodes (text ++ more) = (encodes text && encodes more) :=
  List.all_append

theorem encodes_cons_char (c : Char) (text : List Glyph) :
    encodes (.char c :: text) = encodes text := by
  rw [encodes, List.all_cons, isEncodable, Bool.true_and]
  rfl

/-- Names of classes can be written. -/
theorem encodes_of_isName {name : List Glyph} (h : ∀ g ∈ name, isName g = true) :
    encodes name = true := by
  rw [encodes, List.all_eq_true]
  intro g hg
  obtain ⟨c, rfl, -⟩ := exists_char_of_isName_glyph (h g hg)
  rfl

end Text.Glyph

/-- Whether the new name of a diff can be written. -/
def Diff.encodes (d : Diff) : Bool :=
  Glyph.encodes d.new

/-- A replacement takes no lone surrogate out of a line, and brings in those of the new name. -/
theorem Replaced.encodes_eq {r : Rename} {before rest line line' : List Glyph} (hold : IsName r.old)
    (h : Replaced r before rest line line') :
    Glyph.encodes line' = (Glyph.encodes line && Glyph.encodes r.new) := by
  obtain ⟨b, a, hocc, -, rfl⟩ := h.replaced
  have hline := hocc.text_eq
  rw [write_glyph, Rename.oldSelector] at hline
  rw [hline, write_glyph, Rename.newSelector]
  simp only [Glyph.encodes_append, Glyph.encodes_cons_char, Glyph.encodes_of_isName hold.2,
    Bool.and_true, Bool.and_right_comm]

theorem Replacements.encodes_eq {rs : List Rename} {line line' : List Glyph}
    (h : Replacements rs line line') (hold : ∀ r ∈ rs, IsName r.old) :
    Glyph.encodes line' = (Glyph.encodes line && rs.all fun r => Glyph.encodes r.new) := by
  induction h with
  | nil line => exact (Bool.and_true _).symm
  | cons hstep _ ih =>
    rw [ih fun r hr => hold r (List.mem_cons_of_mem _ hr),
      hstep.encodes_eq (hold _ List.mem_cons_self), List.all_cons, Bool.and_assoc]

/-- A renamed text can be written if the text could be and the new names of all diffs can be. -/
theorem encodes_renameInContent (file : String) (index : Index) (text : List Glyph) :
    Glyph.encodes (renameInContent file index text).text =
      (Glyph.encodes text && (renameInContent file index text).diffs.all Diff.encodes) := by
  refine content_induction (motive := fun text diffs text' =>
    Glyph.encodes text' = (Glyph.encodes text && diffs.all Diff.encodes)) ?_ ?_ text
  · intro number line
    have hmade := replacements_renameInLine file number index line
    rw [hmade.encodes_eq fun r hr => isName_of_asked hr, renameInLine_eq, List.all_map]
    rfl
  · intro left ds left' right es right' hleft hright
    have hjoin (left right : List Glyph) : Glyph.encodes (left ++ newline :: right) =
        (Glyph.encodes left && Glyph.encodes right) := by
      rw [Glyph.encodes_append]
      exact congrArg (Glyph.encodes left && ·) (Glyph.encodes_cons_char '\n' right)
    rw [hjoin, hjoin, hleft, hright, List.all_append]
    ac_rfl

end Restyle
