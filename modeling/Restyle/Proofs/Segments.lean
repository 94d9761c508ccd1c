import Restyle.Proofs.Writing
import Restyle.Proofs.Replacement

/-!
# The segments of a text

A text is cut into its selectors and the symbols around them. `segments` keeps the order and loses
nothing (`textOf_segments`), and there is only one such cut: every well-cut list of segments is the
cut of its own text (`segments_textOf`). So texts are compared and changed segment by segment.

An occurrence of a selector never reaches over the end of a name (`occurrence_split`), and so it
starts at the dot of a selector that it begins (`WellCut.find_occurrence`).
-/

namespace Restyle

open Script

/-- A piece of text: a selector, given by its name, or a symbol outside of all selectors. -/
inductive Segment (α : Type)
  | symbol (c : α)
  | selector (name : List α)
  deriving DecidableEq, Repr

variable {α : Type} [Script α]

/-- The symbols of a segment. -/
def Segment.text : Segment α → List α
  | .symbol c => [c]
  | .selector name => dot :: name

/-- The symbols of segments, one after the other. -/
def textOf (segs : List (Segment α)) : List α :=
  segs.flatMap Segment.text

@[simp] theorem textOf_nil : textOf ([] : List (Segment α)) = [] := rfl

@[simp] theorem textOf_symbol (c : α) (segs : List (Segment α)) :
    textOf (.symbol c :: segs) = c :: textOf segs := rfl

@[simp] theorem textOf_selector (name : List α) (segs : List (Segment α)) :
    textOf (.selector name :: segs) = dot :: (name ++ textOf segs) := rfl

@[simp] theorem textOf_append (left right : List (Segment α)) :
    textOf (left ++ right) = textOf left ++ textOf right :=
  List.flatMap_append

theorem textOf_cons (seg : Segment α) (segs : List (Segment α)) :
    textOf (seg :: segs) = seg.text ++ textOf segs := rfl

/-! ## Ends of names -/

/-- The text does not go on with a name symbol. -/
def EndsName (rest : List α) : Prop :=
  ∀ a b, rest = a :: b → isName a = false

theorem endsName_nil : EndsName ([] : List α) :=
  fun _ _ h => nomatch h

theorem endsName_cons {a : α} {rest : List α} (h : isName a = false) : EndsName (a :: rest) :=
  fun _ _ e => (List.cons.inj e).1 ▸ h

theorem endsName_dot (rest : List α) : EndsName (dot :: rest) :=
  endsName_cons isName_dot

theorem endsName_dropWhile (text : List α) : EndsName (text.dropWhile isName) := by
  intro a b h
  have := List.head?_dropWhile_not isName text
  rw [h] at this
  simpa using this

theorem takeWhile_name {name rest : List α} (hname : ∀ a ∈ name, isName a = true)
    (hrest : EndsName rest) : (name ++ rest).takeWhile isName = name := by
  rw [List.takeWhile_append_of_pos hname]
  cases rest with
  | nil => simp
  | cons a b => simp [hrest a b rfl]

theorem dropWhile_name {name rest : List α} (hname : ∀ a ∈ name, isName a = true)
    (hrest : EndsName rest) : (name ++ rest).dropWhile isName = rest := by
  rw [List.dropWhile_append_of_pos hname]
  cases rest with
  | nil => rfl
  | cons a b => simp [hrest a b rfl]

theorem takeWhile_endsName {rest : List α} (h : EndsName rest) : rest.takeWhile isName = [] := by
  rw [← List.nil_append rest]
  exact takeWhile_name (by simp) h

/-- A name that goes over from one text into the next contains the end of the first. -/
theorem not_straddling {name left rest after : List α} (hname : ∀ a ∈ name, isName a = true)
    (hrest : EndsName rest) (h : left ++ rest = name ++ after) : name.length ≤ left.length := by
  refine Nat.le_of_not_lt fun hlt => ?_
  obtain ⟨more, rfl⟩ : left <+: name :=
    List.prefix_of_prefix_length_le ⟨rest, h⟩ ⟨after, rfl⟩ (Nat.le_of_lt hlt)
  rw [List.append_assoc] at h
  have hmore : rest = more ++ after := List.append_cancel_left h
  cases more with
  | nil => simp at hlt
  | cons a b =>
    have hno := hrest a (b ++ after) hmore
    have hyes := hname a (by simp)
    rw [hno] at hyes
    exact Bool.false_ne_true hyes

/-- An occurrence of a selector lies on one side of a place where no name goes on. -/
theorem occurrence_split {left right b name a : List α} (hname : IsName name)
    (hright : EndsName right) (h : left ++ right = b ++ (dot :: name) ++ a) :
    (∃ more, left = b ++ (dot :: name) ++ more ∧ a = more ++ right) ∨
      ∃ more, b = left ++ more ∧ right = more ++ (dot :: name) ++ a := by
  rw [List.append_assoc] at h
  rcases List.append_eq_append_iff.1 h with ⟨more, hb, hmore⟩ | ⟨more, hleft, hmore⟩
  · exact .inr ⟨more, hb, by rw [hmore, List.append_assoc]⟩
  · cases more with
    | nil =>
      refine .inr ⟨[], by simpa using hleft.symm, ?_⟩
      simpa using hmore.symm
    | cons c more =>
      obtain ⟨rfl, hrest⟩ : dot = c ∧ name ++ a = more ++ right := List.cons.inj hmore
      have hle := not_straddling hname.2 hright hrest.symm
      have hfrom : more ++ right = [] ++ name ++ a := hrest.symm
      obtain ⟨between, rfl, rfl⟩ := exists_between hfrom (by simpa using hle)
      exact .inl ⟨between, by simpa using hleft, rfl⟩

/-! ## Well-cut segments -/

/-- Segments whose names do not go on behind them, so that their text is cut in the same way. -/
inductive WellCut : List (Segment α) → Prop
  | nil : WellCut []
  | symbol {c : α} {rest : List (Segment α)} : (c = dot → EndsName (textOf rest)) →
      WellCut rest → WellCut (.symbol c :: rest)
  | selector {name : List α} {rest : List (Segment α)} : IsName name → EndsName (textOf rest) →
      WellCut rest → WellCut (.selector name :: rest)

theorem WellCut.isName {segs : List (Segment α)} (h : WellCut segs) {name : List α}
    (hmem : Segment.selector name ∈ segs) : IsName name := by
  induction h with
  | nil => cases hmem
  | symbol _ _ ih => exact ih (by simpa using hmem)
  | selector hname _ _ ih =>
    rcases List.mem_cons.1 hmem with heq | hmem
    · cases heq
      exact hname
    · exact ih hmem

theorem WellCut.append {left right : List (Segment α)} (hl : WellCut left) (hr : WellCut right)
    (hend : EndsName (textOf right)) : WellCut (left ++ right) := by
  -- What follows a segment of the left part begins as before or with the right part.
  have follow {rest : List (Segment α)} (h : EndsName (textOf rest)) :
      EndsName (textOf (rest ++ right)) := by
    rw [textOf_append]
    cases hrest : textOf rest with
    | nil => exact hend
    | cons a b =>
      rw [hrest] at h
      exact endsName_cons (h a b rfl)
  induction hl with
  | nil => exact hr
  | symbol hdot _ ih => exact .symbol (fun e => follow (hdot e)) ih
  | selector hname hrest _ ih => exact .selector hname (follow hrest) ih

theorem WellCut.left {left right : List (Segment α)} (h : WellCut (left ++ right)) :
    WellCut left := by
  -- The end of the left part is an end of names in any case.
  have follow {rest : List (Segment α)} (hrest : EndsName (textOf (rest ++ right))) :
      EndsName (textOf rest) := by
    rw [textOf_append] at hrest
    intro a b hab
    exact hrest a (b ++ textOf right) (by rw [hab]; rfl)
  induction left with
  | nil => exact .nil
  | cons seg left ih =>
    cases h with
    | symbol hdot h => exact .symbol (fun e => follow (hdot e)) (ih h)
    | selector hname hrest h => exact .selector hname (follow hrest) (ih h)

theorem WellCut.right {left right : List (Segment α)} (h : WellCut (left ++ right)) :
    WellCut right := by
  induction left with
  | nil => exact h
  | cons seg left ih =>
    cases h with
    | symbol _ h => exact ih h
    | selector _ _ h => exact ih h

/-- Another name in the place of a name is cut in the same place. -/
theorem WellCut.rename {left right : List (Segment α)} {name name' : List α}
    (h : WellCut (left ++ .selector name :: right)) (hname : IsName name') :
    WellCut (left ++ .selector name' :: right) := by
  cases h.right with
  | selector _ hrest hright => exact h.left.append (.selector hname hrest hright) (endsName_dot _)

/-- An occurrence of a selector starts at the dot of a selector that it begins. -/
theorem WellCut.find_occurrence {segs : List (Segment α)} (h : WellCut segs) {b name a : List α}
    (hname : IsName name) (hocc : textOf segs = b ++ (dot :: name) ++ a) :
    ∃ left tail right, segs = left ++ .selector (name ++ tail) :: right ∧
      textOf left = b ∧ a = tail ++ textOf right := by
  induction h generalizing b with
  | nil => simp at hocc
  | @symbol c rest hdot _ ih =>
    rw [textOf_symbol] at hocc
    cases b with
    | nil =>
      -- A dot that stands alone has no name behind it.
      obtain ⟨hc, hrest⟩ : c = dot ∧ textOf rest = name ++ a := List.cons.inj hocc
      have : name.length ≤ ([] : List α).length := not_straddling hname.2 (hdot hc) hrest
      exact absurd (List.eq_nil_of_length_eq_zero (Nat.le_zero.1 this)) hname.1
    | cons d b =>
      obtain ⟨rfl, hrest⟩ : c = d ∧ textOf rest = b ++ (dot :: name) ++ a := List.cons.inj hocc
      obtain ⟨left, tail, right, rfl, rfl, rfl⟩ := ih hrest
      exact ⟨.symbol c :: left, tail, right, rfl, rfl, rfl⟩
  | @selector m rest hm hrest _ ih =>
    rw [textOf_cons] at hocc
    rcases occurrence_split hname hrest hocc with ⟨more, hin, rfl⟩ | ⟨more, rfl, hrest'⟩
    · -- The occurrence lies in this selector, where the only dot is the first symbol.
      cases b with
      | nil =>
        obtain rfl : m = name ++ more := (List.cons.inj hin).2
        exact ⟨[], more, rest, rfl, rfl, rfl⟩
      | cons d b =>
        have hm' : m = b ++ (dot :: name) ++ more := (List.cons.inj hin).2
        exact absurd (by rw [hm']; simp) hm.dot_not_mem
    · obtain ⟨left, tail, right, rfl, rfl, rfl⟩ := ih hrest'
      exact ⟨.selector m :: left, tail, right, rfl, rfl, rfl⟩

/-! ## Cutting a text -/

variable [DecidableEq α]

/-- The segments of a text, from left to right. -/
def segments : List α → List (Segment α)
  | [] => []
  | c :: rest =>
    if c = dot then
      match rest.takeWhile isName with
      | [] => .symbol c :: segments rest
      | name => .selector name :: segments (rest.dropWhile isName)
    else .symbol c :: segments rest
termination_by text => text.length
decreasing_by
  · exact Nat.lt_succ_self _
  · exact Nat.lt_succ_of_le (List.dropWhile_sublist _).length_le
  · exact Nat.lt_succ_self _

theorem segments_nil : segments ([] : List α) = [] := by
  rw [segments]

theorem segments_symbol {c : α} {rest : List α} (h : c = dot → EndsName rest) :
    segments (c :: rest) = .symbol c :: segments rest := by
  rw [segments]
  split
  · rename_i hdot
    rw [takeWhile_endsName (h hdot)]
  · rfl

theorem segments_selector {name rest : List α} (hname : IsName name) (hrest : EndsName rest) :
    segments (dot :: (name ++ rest)) = .selector name :: segments rest := by
  rw [segments, if_pos rfl, takeWhile_name hname.2 hrest, dropWhile_name hname.2 hrest]
  obtain ⟨a, as, rfl⟩ := List.exists_cons_of_ne_nil hname.1
  rfl

/-- A text in one of the three forms in which it is cut. -/
theorem text_cases (text : List α) :
    text = [] ∨ (∃ c rest, text = c :: rest ∧ (c = dot → EndsName rest)) ∨
      ∃ name rest, text = dot :: (name ++ rest) ∧ IsName name ∧ EndsName rest := by
  cases text with
  | nil => exact .inl rfl
  | cons c rest =>
    by_cases hdot : c = dot
    · subst hdot
      by_cases hnone : rest.takeWhile isName = []
      · refine .inr (.inl ⟨dot, rest, rfl, fun _ => ?_⟩)
        have hrest := endsName_dropWhile rest
        rw [← List.takeWhile_append_dropWhile (p := isName) (l := rest), hnone]
        exact hrest
      · refine .inr (.inr ⟨_, _, ?_, ⟨hnone, ?_⟩, endsName_dropWhile rest⟩)
        · rw [List.takeWhile_append_dropWhile]
        · exact List.all_eq_true.1 List.all_takeWhile
    · exact .inr (.inl ⟨c, rest, rfl, fun h => absurd h hdot⟩)

omit [DecidableEq α] in
theorem length_lt_of_selector (name rest : List α) :
    rest.length < (dot :: (name ++ rest)).length := by
  rw [List.length_cons, List.length_append]
  omega

/-- Segments lose nothing of a text, and they are well cut. -/
theorem segments_ok (text : List α) :
    textOf (segments text) = text ∧ WellCut (segments text) := by
  induction hn : text.length using Nat.strongRecOn generalizing text with
  | ind n ih =>
    subst hn
    rcases text_cases text with rfl | ⟨c, rest, rfl, hdot⟩ | ⟨name, rest, rfl, hname, hrest⟩
    · rw [segments_nil]
      exact ⟨rfl, .nil⟩
    · obtain ⟨htext, hcut⟩ := ih _ (Nat.lt_succ_self _) rest rfl
      rw [segments_symbol hdot]
      exact ⟨by rw [textOf_symbol, htext], .symbol (by rwa [htext]) hcut⟩
    · obtain ⟨htext, hcut⟩ := ih rest.length (length_lt_of_selector name rest) rest rfl
      rw [segments_selector hname hrest]
      exact ⟨by rw [textOf_selector, htext], .selector hname (by rwa [htext]) hcut⟩

@[simp] theorem textOf_segments (text : List α) : textOf (segments text) = text :=
  (segments_ok text).1

theorem wellCut_segments (text : List α) : WellCut (segments text) :=
  (segments_ok text).2

/-- There is only one way to cut a text. -/
theorem segments_textOf {segs : List (Segment α)} (h : WellCut segs) :
    segments (textOf segs) = segs := by
  induction h with
  | nil => exact segments_nil
  | symbol hdot _ ih => rw [textOf_symbol, segments_symbol hdot, ih]
  | selector hname hrest _ ih => rw [textOf_selector, segments_selector hname hrest, ih]

/-- A text is cut at every symbol that is neither a dot nor part of a name. -/
theorem segments_append {left rest : List α} {c : α} (hdot : c ≠ dot) (hc : isName c = false) :
    segments (left ++ c :: rest) = segments left ++ .symbol c :: segments rest := by
  have hcut : WellCut (segments left ++ .symbol c :: segments rest) :=
    (wellCut_segments left).append (.symbol (fun e => absurd e hdot) (wellCut_segments rest))
      (endsName_cons hc)
  have htext : textOf (segments left ++ .symbol c :: segments rest) = left ++ c :: rest := by
    simp
  rw [← htext, segments_textOf hcut]

/-! ## Selectors among the segments -/

/-- The selector that a segment is. -/
def Segment.selector? : Segment α → Option (List α)
  | .symbol _ => none
  | .selector name => some (dot :: name)

/-- The selectors of a text are those of its segments. -/
theorem selectors_eq (text : List α) :
    selectors text = (segments text).filterMap Segment.selector? := by
  induction hn : text.length using Nat.strongRecOn generalizing text with
  | ind n ih =>
    subst hn
    rcases text_cases text with rfl | ⟨c, rest, rfl, hdot⟩ | ⟨name, rest, rfl, hname, hrest⟩
    · rw [segments_nil, selectors]
      rfl
    · rw [segments_symbol hdot, List.filterMap_cons_none (by rfl),
        ← ih _ (Nat.lt_succ_self _) rest rfl, selectors]
      split
      · rename_i h
        rw [takeWhile_endsName (hdot h)]
      · rfl
    · have hrest' := ih rest.length (length_lt_of_selector name rest) rest rfl
      rw [segments_selector hname hrest, List.filterMap_cons, ← hrest', selectors, if_pos rfl,
        takeWhile_name hname.2 hrest, dropWhile_name hname.2 hrest]
      obtain ⟨a, as, rfl⟩ := List.exists_cons_of_ne_nil hname.1
      rfl

end Restyle
