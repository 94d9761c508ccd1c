import Restyle.Proofs.Failures
import Restyle.Proofs.JoinedPaths

/-!
# Texts that are no paths

A text with the NUL character is no path: walking along it fails (`Tree.walk_unusable_iff`), and so does
writing and removing. A list of patterns fails for the same reason and for no other one: a pattern has
the character in the directory that its search starts from (`FileSet.resolve_eq_error_iff`).
-/

namespace Restyle

open Text

namespace Path

/-! ## The NUL character in parts of paths -/

theorem hasNul_withoutFinalSlashes (s : String) : hasNul (withoutFinalSlashes s) = hasNul s := by
  have hdrop (cs : List Char) : (cs.dropWhile (· == slash)).any (fun c => c.toNat == 0) =
      cs.any fun c => c.toNat == 0 := by
    induction cs with
    | nil => rfl
    | cons c cs ih =>
      rw [List.dropWhile_cons]
      split
      · rename_i hc
        rw [beq_iff_eq] at hc
        rw [ih, List.any_cons, hc]
        rfl
      · rfl
  rw [withoutFinalSlashes, hasNul, String.toList_ofList, List.any_reverse, hdrop, List.any_reverse,
    hasNul]

end Path

/-! ## Operations on the tree -/

namespace Tree

variable {t : Tree} {path : String}

theorem walkFrom_usable (t : Tree) (here : Location) (steps : List String) :
    t.walkFrom here steps ≠ .error .unusable := by
  induction steps generalizing here with
  | nil => simp [walkFrom]
  | cons step rest ih =>
    unfold walkFrom
    split
    · exact ih here
    split
    · exact ih _
    split
    · simp
    split
    · exact ih _
    · split_ifs <;> simp

/-- A text is unusable as a path if and only if it has the NUL character. -/
theorem walk_unusable_iff : t.walk path = .error .unusable ↔ Path.hasNul path = true := by
  unfold walk
  constructor
  · intro h
    by_contra hnul
    rw [if_neg hnul] at h
    split at h
    · cases h
    split at h
    · cases h
    exact walkFrom_usable t _ _ h
  · intro hnul
    rw [if_pos hnul]

theorem walk_of_hasNul (h : Path.hasNul path = true) : t.walk path = .error .unusable :=
  walk_unusable_iff.2 h

end Tree

namespace FileSet

/-- A pattern with a wildcard whose search starts from a directory with the NUL character. -/
def Unsearchable (pattern : String) : Prop :=
  (Search.ofPattern pattern).names ≠ [] ∧ Path.hasNul (Search.ofPattern pattern).base = true

instance : DecidablePred Unsearchable := fun pattern =>
  inferInstanceAs (Decidable ((Search.ofPattern pattern).names ≠ [] ∧
    Path.hasNul (Search.ofPattern pattern).base = true))

theorem hasNul_baseOf (names : List String) : Path.hasNul (baseOf names) = names.any Path.hasNul := by
  unfold baseOf
  split
  · rename_i hnil
    rw [hnil]
    rfl
  split
  · have hslash : Path.hasNul "/" = false := by decide
    rw [Path.hasNul_append, hslash, Bool.or_false, Path.hasNul_ofPieces]
  · rw [Path.hasNul_withoutFinalSlashes, Path.hasNul_ofPieces]

/-- The NUL character of an unsearchable pattern stands in a name before the first wildcard. -/
theorem exists_name_of_unsearchable {pattern : String} (h : Unsearchable pattern) :
    ∃ name ∈ (Path.pieces pattern).takeWhile fun p => !Wildcard.isMagic p,
      Path.hasNul name = true := by
  have hbase := h.2
  unfold Search.ofPattern at hbase
  rw [hasNul_baseOf, List.any_eq_true] at hbase
  exact hbase

/-- What stands before an item that fails a test can be taken away in front of it. -/
theorem takeWhile_dropWhile_append_cons {α : Type} {p : α → Bool} {item : α} (hitem : p item = false)
    (front back : List α) :
    (front ++ item :: back).takeWhile p = front.takeWhile p ∧
      (front ++ item :: back).dropWhile p = front.dropWhile p ++ item :: back := by
  induction front with
  | nil => simp [hitem]
  | cons x front ih =>
    rw [List.cons_append, List.takeWhile_cons, List.takeWhile_cons, List.dropWhile_cons,
      List.dropWhile_cons]
    cases p x with
    | true => exact ⟨congrArg (x :: ·) ih.1, ih.2⟩
    | false => exact ⟨rfl, rfl⟩

theorem isAbsolute_star (ending : String) : Path.isAbsolute ("*" ++ ending) = false := by
  rw [Path.isAbsolute, String.toList_append]
  rfl

/-- The pattern for the files below a directory goes on from the stem of the directory. -/
theorem pieces_below {directory : String} (hne : directory ≠ "") (ending : String) :
    Path.pieces (Path.join (Path.join directory anyDepth) ("*" ++ ending)) =
      Path.stem directory ++ anyDepth :: Path.pieces ("*" ++ ending) := by
  have hany : Path.isAbsolute anyDepth = false := by decide
  have hrest : Path.isAbsolute (Path.join anyDepth ("*" ++ ending)) = false := by
    rw [Path.isAbsolute_join (by decide) (isAbsolute_star ending), hany]
  have hstem : Path.stem anyDepth = [anyDepth] := by decide
  rw [Path.join_join directory hany (isAbsolute_star ending), Path.pieces_join hne hrest,
    Path.pieces_join (by decide) (isAbsolute_star ending), hstem, List.singleton_append]

/-- The search below a directory starts from a directory without the NUL character. -/
theorem not_unsearchable_below {t : Tree} {directory : String}
    (hdirectory : t.isDirectory directory = true) (ending : String) :
    ¬ Unsearchable (Path.join (Path.join directory anyDepth) ("*" ++ ending)) := by
  have hnul : ∀ name ∈ Path.pieces directory, Path.hasNul name ≠ true := by
    intro name hname hnul
    have hall : Path.hasNul directory = true := by
      rw [← Path.any_hasNul_pieces, List.any_eq_true]
      exact ⟨name, hname, hnul⟩
    rw [Tree.isDirectory, Tree.walk_of_hasNul hall] at hdirectory
    cases hdirectory
  have hne : directory ≠ "" := by
    rintro rfl
    cases hdirectory
  intro hunsearchable
  obtain ⟨name, hname, hname'⟩ := exists_name_of_unsearchable hunsearchable
  -- The wildcard that stands for any depth ends what the search starts from.
  rw [pieces_below hne, (takeWhile_dropWhile_append_cons (by decide) _ _).1] at hname
  have hmem : name ∈ Path.stem directory := (List.takeWhile_sublist _).subset hname
  rcases Path.pieces_cases directory with h | h
  · exact hnul name (h ▸ hmem) hname'
  · exact hnul name (h ▸ List.mem_append_left _ hmem) hname'

/-- The first pattern of a list that cannot be searched for. -/
def unsearchable? (input : String) : Option String :=
  (patterns input).find? fun pattern => Unsearchable pattern

end FileSet

end Restyle
