import Restyle.Proofs.Concatenation
import Restyle.Proofs.Linewise
import Restyle.Proofs.Trimming

/-!
# Entries of change lists

Entries stand one a line, with blanks around them and blank lines between them. This says all of how a
change list is read: its entries are the only ones of which its lines are such a setting
(`ChangeList.entries_eq_iff`). So entries that are written one a line are read back, and how else the
lines are set makes no difference (`ChangeList.entries_unlines_of_respaced`), nor do carriage returns
at their ends (`ChangeList.entries_withReturns`).

All of this comes from two laws: the entries of lines are those of each line
(`ChangeList.entries_unlines`), and blanks around a text give no other entries
(`ChangeList.entries_between`).
-/

namespace Restyle

open Text

/-! ## Lines that are set in another way -/

/-- A line with blanks around it. -/
def Padded (line line' : List Glyph) : Prop :=
  ∃ front back, Glyph.AreBlank front ∧ Glyph.AreBlank back ∧ line' = front ++ line ++ back

/-- Lines with blanks around them, each with its own, and with blank lines between them. -/
inductive Respaced : List (List Glyph) → List (List Glyph) → Prop
  | nil : Respaced [] []
  | blank {blank : List Glyph} {ls ls' : List (List Glyph)} : Glyph.AreBlank blank →
      Respaced ls ls' → Respaced ls (blank :: ls')
  | line {line line' : List Glyph} {ls ls' : List (List Glyph)} : Padded line line' →
      Respaced ls ls' → Respaced (line :: ls) (line' :: ls')

/-- A text where every newline has a carriage return before it. -/
def withReturns (text : List Glyph) : List Glyph :=
  text.flatMap fun g => if g = .char '\n' then [.char '\r', .char '\n'] else [g]

theorem withReturns_append (text more : List Glyph) :
    withReturns (text ++ more) = withReturns text ++ withReturns more :=
  List.flatMap_append

theorem withReturns_of_line {line : List Glyph} (h : .char '\n' ∉ line) :
    withReturns line = line := by
  have hall : ∀ g ∈ line, (if g = .char '\n' then [.char '\r', .char '\n'] else [g]) = [g] :=
    fun g hg => if_neg fun e : g = .char '\n' => h (e ▸ hg)
  rw [withReturns, List.flatMap_congr hall, List.flatMap_singleton']

namespace ChangeList

/-! ## The two laws -/

theorem entries_of_line {line : List Glyph} (h : .char '\n' ∉ line) :
    entries line = if Glyph.trim line = [] then [] else [Glyph.trim line] := by
  rw [entries, Glyph.lines, splitOn_of_not_mem h, List.map_singleton]
  by_cases hempty : Glyph.trim line = [] <;> simp [hempty]

/-- The entries of lines are those of each of them. -/
theorem entries_unlines (ls : List (List Glyph)) :
    entries (Glyph.unlines ls) = ls.flatMap entries := by
  induction ls with
  | nil => rfl
  | cons line ls ih =>
    by_cases hnil : ls = []
    · subst hnil
      rw [List.flatMap_singleton]
      rfl
    · rw [Glyph.unlines_cons line hnil, entries_append, ih, List.flatMap_cons]

/-- Blanks without a newline give no other entries. -/
theorem entries_between_of_line {front back : List Glyph} (hfront : Glyph.AreBlank front)
    (hback : Glyph.AreBlank back) (hline : .char '\n' ∉ front) (hline' : .char '\n' ∉ back)
    (text : List Glyph) : entries (front ++ text ++ back) = entries text := by
  have hpieces := map_trimBy_between hfront hback hline hline' text
  exact congrArg (List.filter (· ≠ [])) hpieces

theorem entries_append_of_blank {front : List Glyph} (hfront : Glyph.AreBlank front)
    (text : List Glyph) : entries (front ++ text) = entries text := by
  induction front with
  | nil => rfl
  | cons g front ih =>
    rw [Glyph.AreBlank, List.forall_mem_cons] at hfront
    rw [← ih hfront.2]
    by_cases hg : g = .char '\n'
    · -- A newline in front puts an empty line there.
      subst hg
      exact entries_append [] (front ++ text)
    · have hblank : Glyph.AreBlank [g] := by simpa [Glyph.AreBlank] using hfront.1
      have hpad := entries_between_of_line hblank Glyph.areBlank_nil (by simpa using Ne.symm hg)
        List.not_mem_nil (front ++ text)
      rwa [List.append_nil] at hpad

theorem entries_of_blank {blank : List Glyph} (h : Glyph.AreBlank blank) : entries blank = [] := by
  have hnone := entries_append_of_blank h []
  rwa [List.append_nil] at hnone

/-- Blanks around a text, newlines among them, give no other entries. -/
theorem entries_between {front back : List Glyph} (hfront : Glyph.AreBlank front)
    (hback : Glyph.AreBlank back) (text : List Glyph) :
    entries (front ++ text ++ back) = entries text := by
  by_cases hline : .char '\n' ∈ back
  · -- The first of the newlines ends the last line, and behind it all is blank.
    obtain ⟨first, rest, rfl, hfirst⟩ := List.eq_append_cons_of_mem hline
    have hfirst' : Glyph.AreBlank first := fun g hg => hback g (List.mem_append_left _ hg)
    have hrest : Glyph.AreBlank rest :=
      fun g hg => hback g (List.mem_append_right first (List.mem_cons_of_mem _ hg))
    have hpad := entries_between_of_line Glyph.areBlank_nil hfirst' List.not_mem_nil hfirst
      (front ++ text)
    rw [List.nil_append] at hpad
    rw [← List.append_assoc, entries_append, hpad, entries_of_blank hrest, List.append_nil,
      entries_append_of_blank hfront]
  · have hpad := entries_between_of_line Glyph.areBlank_nil hback List.not_mem_nil hline
      (front ++ text)
    rw [List.nil_append] at hpad
    rw [hpad, entries_append_of_blank hfront]

/-! ## Entries -/

/-- What an entry is: some text within a line, with no blanks at its ends. -/
structure IsEntry (entry : List Glyph) : Prop where
  ne_nil : entry ≠ []
  within_line : .char '\n' ∉ entry
  trimmed : IsTrimmed Glyph.isBlank entry

instance : DecidablePred IsEntry := fun entry =>
  decidable_of_iff (entry ≠ [] ∧ .char '\n' ∉ entry ∧ IsTrimmed Glyph.isBlank entry)
    ⟨fun h => ⟨h.1, h.2.1, h.2.2⟩, fun h => ⟨h.ne_nil, h.within_line, h.trimmed⟩⟩

theorem isEntry_of_mem_entries {text entry : List Glyph} (h : entry ∈ entries text) :
    IsEntry entry where
  ne_nil := ne_nil_of_mem_entries h
  within_line := newline_not_mem_entry h
  trimmed := by
    obtain ⟨line, -, rfl⟩ := List.mem_map.1 (List.mem_filter.1 h).1
    exact isTrimmed_trimBy Glyph.isBlank line

theorem entries_of_isEntry {entry : List Glyph} (h : IsEntry entry) : entries entry = [entry] := by
  rw [entries_of_line h.within_line, Glyph.trim, trimBy_eq_self h.trimmed, if_neg h.ne_nil]

/-- Entries that are written one a line are read back. -/
theorem entries_unlines_of_isEntry {es : List (List Glyph)} (h : ∀ entry ∈ es, IsEntry entry) :
    entries (Glyph.unlines es) = es := by
  have hall : ∀ entry ∈ es, entries entry = [entry] := fun entry hentry =>
    entries_of_isEntry (h entry hentry)
  rw [entries_unlines, List.flatMap_congr hall, List.flatMap_singleton']

/-! ## Texts with the same entries -/

theorem flatMap_entries_of_respaced {ls ls' : List (List Glyph)} (h : Respaced ls ls') :
    ls'.flatMap entries = ls.flatMap entries := by
  induction h with
  | nil => rfl
  | blank hblank _ ih => rw [List.flatMap_cons, entries_of_blank hblank, ih, List.nil_append]
  | line hpadded _ ih =>
    obtain ⟨front, back, hfront, hback, rfl⟩ := hpadded
    rw [List.flatMap_cons, List.flatMap_cons, entries_between hfront hback, ih]

/-- The lines of a text are a setting of its entries. -/
theorem respaced_entries (text : List Glyph) : Respaced (entries text) (Glyph.lines text) := by
  rw [entries]
  induction Glyph.lines text with
  | nil => exact .nil
  | cons line ls ih =>
    rw [List.map_cons]
    by_cases hempty : Glyph.trim line = []
    · rw [List.filter_cons_of_neg (by simp [hempty])]
      exact .blank (forall_of_trimBy hempty) ih
    · rw [List.filter_cons_of_pos (by simp [hempty])]
      exact .line (exists_margins Glyph.isBlank line) ih

/-- A text has the entries of which its lines are a setting. -/
theorem entries_eq_iff {text : List Glyph} {es : List (List Glyph)} :
    entries text = es ↔ (∀ entry ∈ es, IsEntry entry) ∧ Respaced es (Glyph.lines text) := by
  constructor
  · rintro rfl
    exact ⟨fun entry => isEntry_of_mem_entries, respaced_entries text⟩
  · rintro ⟨hes, hlines⟩
    rw [← entries_unlines_of_isEntry hes, entries_unlines, ← flatMap_entries_of_respaced hlines,
      ← entries_unlines, Glyph.unlines_lines]

theorem entries_unlines_of_respaced {text : List Glyph} {ls : List (List Glyph)}
    (h : Respaced (Glyph.lines text) ls) : entries (Glyph.unlines ls) = entries text := by
  rw [entries_unlines, flatMap_entries_of_respaced h, ← entries_unlines, Glyph.unlines_lines]

theorem entries_withReturns (text : List Glyph) : entries (withReturns text) = entries text := by
  have hall (ls : List (List Glyph)) (hls : ∀ line ∈ ls, .char '\n' ∉ line) :
      entries (withReturns (Glyph.unlines ls)) = ls.flatMap entries := by
    induction ls with
    | nil => rfl
    | cons line ls ih =>
      rw [List.forall_mem_cons] at hls
      by_cases hnil : ls = []
      · subst hnil
        rw [List.flatMap_singleton, show Glyph.unlines [line] = line from rfl,
          withReturns_of_line hls.1]
      · -- The return is a blank behind the line.
        have hset : withReturns (line ++ .char '\n' :: Glyph.unlines ls) =
            line ++ [.char '\r'] ++ .char '\n' :: withReturns (Glyph.unlines ls) := by
          rw [withReturns_append, withReturns_of_line hls.1, List.append_assoc]
          rfl
        have hreturn : Glyph.AreBlank [.char '\r'] := by decide
        have hpad := entries_between Glyph.areBlank_nil hreturn line
        rw [List.nil_append] at hpad
        rw [Glyph.unlines_cons line hnil, hset, entries_append, hpad, ih hls.2, List.flatMap_cons]
  have hlines := hall (Glyph.lines text) fun line hline => Glyph.newline_not_mem_line hline
  rw [← entries_unlines, Glyph.unlines_lines] at hlines
  exact hlines

end ChangeList

/-- **Entries.** What is read from a change list is some text within a line with no blanks at its ends;
and any list of such entries is what is read when they are written one a line, and of every text where
they stand one a line, with blanks around them and blank lines between. So reading what was written of
a reading gives the same again, and it gives the same for a text with carriage returns before its
newlines, and for one with blanks around its lines, each with its own, and blank lines between them. -/
theorem entries_read_back :
    (∀ text, ∀ entry ∈ ChangeList.entries text, ChangeList.IsEntry entry) ∧
    (∀ es, (∀ entry ∈ es, ChangeList.IsEntry entry) → ChangeList.entries (Glyph.unlines es) = es) ∧
    (∀ text es, ChangeList.entries text = es ↔
      (∀ entry ∈ es, ChangeList.IsEntry entry) ∧ Respaced es (Glyph.lines text)) ∧
    (∀ text, ChangeList.entries (Glyph.unlines (ChangeList.entries text)) = ChangeList.entries text) ∧
    (∀ text, ChangeList.entries (withReturns text) = ChangeList.entries text) ∧
    ∀ text ls, Respaced (Glyph.lines text) ls →
      ChangeList.entries (Glyph.unlines ls) = ChangeList.entries text := by
  refine ⟨fun text entry => ChangeList.isEntry_of_mem_entries,
    fun es => ChangeList.entries_unlines_of_isEntry, fun text es => ChangeList.entries_eq_iff,
    fun text => ?_, ChangeList.entries_withReturns,
    fun text ls => ChangeList.entries_unlines_of_respaced⟩
  apply ChangeList.entries_unlines_of_isEntry
  exact fun entry => ChangeList.isEntry_of_mem_entries

/-- Entries with separators inside them that are no newlines, and a text that is set with blanks of many
kinds. -/
theorem entries_read_back_spaced :
    let es : List (List Glyph) := ["a_b\rc", "x\u2028\x1Cy"]
    let text : List Glyph := "a_b\n\nc-d"
    let ls : List (List Glyph) := ["\u0085\n", "\t a_b\r", "\u3000", "", "c-d\x1F\u2029"]
    (∀ entry ∈ es, ChangeList.IsEntry entry) ∧ ChangeList.entries (Glyph.unlines es) = es ∧
    Respaced (Glyph.lines text) ls ∧ ChangeList.entries (Glyph.unlines ls) = ["a_b", "c-d"] ∧
    ChangeList.entries (withReturns text) = ["a_b", "c-d"] := by
  intro es text ls
  obtain ⟨-, hwritten, -, -, hreturns, hspaced⟩ := entries_read_back
  have hes : ∀ entry ∈ es, ChangeList.IsEntry entry := by decide +kernel
  have hlines : Glyph.lines text = ["a_b", "", "c-d"] := by decide +kernel
  have htext : ChangeList.entries text = ["a_b", "c-d"] := by decide +kernel
  have hls : Respaced (Glyph.lines text) ls := by
    rw [hlines]
    refine .blank (by decide +kernel) (.line ⟨Glyph.ofString "\t ", Glyph.ofString "\r", ?_⟩
      (.blank (by decide +kernel) (.line ⟨[], [], ?_⟩
        (.line ⟨[], Glyph.ofString "\x1F\u2029", ?_⟩ .nil)))) <;>
    exact ⟨by decide +kernel, by decide +kernel, by decide +kernel⟩
  exact ⟨hes, hwritten es hes, hls, (hspaced text ls hls).trans htext,
    (hreturns text).trans htext⟩

end Restyle
