import Restyle.Rename.Index

/-!
# Written names

What renaming relies on when names are spelled in a script: a selector is a dot and its name,
names are spelled in name symbols only, and no name is confused with any other text once it is
written. Texts that are no names can be: as octets, a lone surrogate looks like three stray octets.
-/

namespace Restyle

open Text

namespace Script

variable {α : Type} [Script α]

/-! ## Text in symbols -/

/-- How many symbols of a script a text takes: its length among glyphs, and the size of its encoding
among octets. -/
def width (α : Type) [Script α] (text : List Glyph) : Nat :=
  (write text : List α).length

theorem write_cons (g : Glyph) (text : List Glyph) :
    (write (g :: text) : List α) = spell g ++ write text := rfl

theorem write_append (text more : List Glyph) :
    (write (text ++ more) : List α) = write text ++ write more :=
  List.flatMap_append

theorem write_dot_cons (text : List Glyph) :
    (write (.char '.' :: text) : List α) = dot :: write text := by
  rw [write_cons, spell_dot]
  rfl

theorem eq_nil_of_write {text : List Glyph} (h : (write text : List α) = []) : text = [] := by
  cases text with
  | nil => rfl
  | cons g text => exact absurd (List.append_eq_nil_iff.1 h).1 (spell_ne_nil g)

/-! ## Names -/

/-- A run of name symbols that is not empty. -/
def IsName (name : List α) : Prop :=
  name ≠ [] ∧ ∀ a ∈ name, isName a = true

instance (name : List α) : Decidable (IsName name) :=
  decidable_of_iff (name.isEmpty = false ∧ name.all isName = true) (by
    rw [IsName, List.all_eq_true, List.isEmpty_eq_false_iff])

theorem IsName.append {name tail : List α} (h : IsName name) (ht : ∀ a ∈ tail, isName a = true) :
    IsName (name ++ tail) := by
  refine ⟨fun e => h.1 (List.append_eq_nil_iff.1 e).1, ?_⟩
  intro a ha
  rcases List.mem_append.1 ha with ha | ha
  · exact h.2 a ha
  · exact ht a ha

theorem IsName.dot_not_mem {name : List α} (h : IsName name) : dot ∉ name := by
  intro hd
  have := h.2 dot hd
  rw [isName_dot] at this
  exact Bool.false_ne_true this

theorem exists_char_of_isName_glyph {g : Glyph} (h : isName g = true) :
    ∃ c, g = .char c ∧ isNameChar c = true := by
  obtain ⟨c, hc, honly⟩ := exists_char_of_isName g h
  exact ⟨c, honly g (List.mem_singleton.2 rfl), hc⟩

/-- A glyph of names is spelled by one symbol of names, and no other glyph has that symbol. -/
theorem spell_isName {g : Glyph} (h : isName g = true) :
    ∃ a : α, spell g = [a] ∧ isName a = true ∧ ∀ g', a ∈ spell g' → g' = g := by
  obtain ⟨c, rfl, hc⟩ := exists_char_of_isName_glyph h
  obtain ⟨a, hspell, ha⟩ := spell_name (α := α) c hc
  obtain ⟨d, -, honly⟩ := Script.exists_char_of_isName a ha
  have hd := honly (.char c) (by rw [hspell]; exact List.mem_singleton.2 rfl)
  exact ⟨a, hspell, ha, fun g' hg' => (honly g' hg').trans hd.symm⟩

theorem isName_write {text : List Glyph} (h : ∀ g ∈ text, isName g = true) :
    ∀ a ∈ (write text : List α), isName a = true := by
  intro a ha
  obtain ⟨g, hg, hag⟩ := List.mem_flatMap.1 ha
  obtain ⟨b, hb, hname, -⟩ := spell_isName (α := α) (h g hg)
  rw [hb, List.mem_singleton] at hag
  exact hag ▸ hname

theorem IsName.write {text : List Glyph} (h : IsName text) : IsName (write text : List α) :=
  ⟨fun hnil => h.1 (eq_nil_of_write hnil), isName_write h.2⟩

/-- What is written in name symbols has only glyphs of names. -/
theorem isName_of_write {text : List Glyph} (h : ∀ a ∈ (write text : List α), isName a = true) :
    ∀ g ∈ text, isName g = true := by
  intro g hg
  obtain ⟨a, rest, hspell⟩ := List.exists_cons_of_ne_nil (spell_ne_nil (α := α) g)
  have hmem : a ∈ spell g := by
    rw [hspell]
    exact List.mem_cons_self
  obtain ⟨c, hc, honly⟩ :=
    Script.exists_char_of_isName a (h a (List.mem_flatMap.2 ⟨g, hg, hmem⟩))
  rw [honly g hmem]
  exact hc

theorem IsName.of_write {text : List Glyph} (h : IsName (Script.write text : List α)) :
    IsName text :=
  ⟨fun hnil => h.1 (by rw [hnil]; rfl), isName_of_write h.2⟩

/-! ## Telling names apart -/

/-- A name that begins a text in writing begins it. -/
theorem prefix_of_write {name text : List Glyph} (hname : ∀ g ∈ name, isName g = true)
    (h : (write name : List α) <+: write text) : name <+: text := by
  induction name generalizing text with
  | nil => exact List.nil_prefix
  | cons n name ih =>
    obtain ⟨a, hspell, -, honly⟩ := spell_isName (α := α) (hname n List.mem_cons_self)
    obtain ⟨rest, hrest⟩ := h
    rw [write_cons, hspell, List.append_assoc, List.singleton_append] at hrest
    cases text with
    | nil => cases hrest
    | cons g text =>
      -- The text begins with the only symbol of the name's first glyph, so with this glyph.
      obtain ⟨b, bs, hb⟩ := List.exists_cons_of_ne_nil (spell_ne_nil (α := α) g)
      rw [write_cons, hb, List.cons_append] at hrest
      obtain ⟨rfl, hbehind⟩ := List.cons.inj hrest
      obtain rfl := honly g (by rw [hb]; exact List.mem_cons_self)
      obtain rfl : bs = [] := (List.cons.inj (hb.symm.trans hspell)).2
      rw [List.prefix_cons_inj]
      exact ih (fun m hm => hname m (List.mem_cons_of_mem _ hm)) ⟨rest, hbehind⟩

/-- No other text is written as a name is. -/
theorem write_inj_of_isName {name text : List Glyph} (hname : ∀ g ∈ name, isName g = true)
    (h : (write name : List α) = write text) : name = text := by
  obtain ⟨more, rfl⟩ : name <+: text :=
    prefix_of_write (α := α) hname ⟨[], by rw [List.append_nil, h]⟩
  rw [write_append, List.self_eq_append_right] at h
  rw [eq_nil_of_write h, List.append_nil]

/-- Symbols that are the writing of one text at most. -/
def IsUnambiguous (symbols : List α) : Prop :=
  ∀ s t : List Glyph, write s = symbols → write t = symbols → s = t

/-- Glyphs are the writing of themselves only. -/
theorem isUnambiguous_glyph (text : List Glyph) : IsUnambiguous text := by
  intro s t hs ht
  rw [← write_glyph s, ← write_glyph t, hs, ht]

theorem isUnambiguous_of_isName {name : List α} (h : ∀ a ∈ name, isName a = true) :
    IsUnambiguous name := by
  rintro s t rfl ht
  exact write_inj_of_isName (isName_of_write h) ht.symm

theorem IsName.isUnambiguous {name : List α} (h : IsName name) : IsUnambiguous name :=
  isUnambiguous_of_isName h.2

end Script

namespace Rename

variable {α : Type} [Script α]

theorem write_oldSelector (r : Rename) :
    (Script.write r.oldSelector : List α) = Script.dot :: Script.write r.old :=
  Script.write_dot_cons r.old

theorem write_oldSelector_ne_nil (r : Rename) : (Script.write r.oldSelector : List α) ≠ [] := by
  rw [write_oldSelector]
  exact List.cons_ne_nil _ _

theorem write_newSelector (r : Rename) :
    (Script.write r.newSelector : List α) = Script.dot :: Script.write r.new :=
  Script.write_dot_cons r.new

/-- An old selector is spelled by a dot and the old name. -/
theorem write_oldSelector_eq {r : Rename} {name : List α} :
    Script.write r.oldSelector = Script.dot :: name ↔ Script.write r.old = name := by
  rw [write_oldSelector, List.cons_inj_right]

end Rename

end Restyle
