import Restyle.Selector

/-!
# Replacing the first occurrence

`replaceFirst` is described by the parts of a text around the first occurrence of the old text: these
stay and the new text stands between them (`replaceFirst_eq`). An occurrence is enough for a first
one, which starts no later (`exists_firstOccurrence`).
-/

namespace Restyle

variable {α : Type}

/-- The parts of a text before and after the first occurrence of a pattern. -/
structure FirstOccurrence (pattern before after text : List α) : Prop where
  text_eq : text = before ++ pattern ++ after
  first : ∀ b a, text = b ++ pattern ++ a → before.length ≤ b.length

theorem FirstOccurrence.tail {pattern before after text : List α} {c : α}
    (h : FirstOccurrence pattern (c :: before) after (c :: text)) :
    FirstOccurrence pattern before after text := by
  refine ⟨(List.cons.inj h.text_eq).2, ?_⟩
  intro b a hb
  have := h.first (c :: b) a (by rw [hb]; rfl)
  exact Nat.le_of_succ_le_succ this

/-- The first occurrence starts no later than any other. -/
theorem exists_firstOccurrence {pattern text b a : List α} (h : text = b ++ pattern ++ a) :
    ∃ before after, FirstOccurrence pattern before after text ∧ before.length ≤ b.length := by
  -- Induction on the bound: an occurrence that is not the first has one strictly before it.
  induction hn : b.length using Nat.strongRecOn generalizing b a with
  | ind n ih =>
    subst hn
    by_cases hfirst : ∀ b' a', text = b' ++ pattern ++ a' → b.length ≤ b'.length
    · exact ⟨b, a, ⟨h, hfirst⟩, Nat.le_refl _⟩
    · simp only [Classical.not_forall, Nat.not_le] at hfirst
      obtain ⟨b', a', h', hlt⟩ := hfirst
      obtain ⟨before, after, hocc, hle⟩ := ih b'.length hlt h' rfl
      exact ⟨before, after, hocc, Nat.le_trans hle (Nat.le_of_lt hlt)⟩

/-- A pattern that ends within `left ++ right` reaches into `right` only by its own end. -/
theorem exists_between {left right before pattern after : List α}
    (h : left ++ right = before ++ pattern ++ after)
    (hle : (before ++ pattern).length ≤ left.length) :
    ∃ between, left = before ++ pattern ++ between ∧ after = between ++ right := by
  have hpre : before ++ pattern <+: left :=
    List.prefix_of_prefix_length_le ⟨after, h.symm⟩ ⟨right, rfl⟩ hle
  obtain ⟨between, rfl⟩ := hpre
  refine ⟨between, rfl, ?_⟩
  rw [List.append_assoc (before ++ pattern)] at h
  exact (List.append_cancel_left h).symm

variable [DecidableEq α]

/-- The new text takes the place of the first occurrence, and everything around it stays. -/
theorem replaceFirst_eq {old new before after text : List α} (hold : old ≠ [])
    (h : FirstOccurrence old before after text) :
    replaceFirst old new text = before ++ new ++ after := by
  induction before generalizing text with
  | nil =>
    obtain ⟨o, os, rfl⟩ := List.exists_cons_of_ne_nil hold
    rw [h.text_eq, List.nil_append, List.cons_append, replaceFirst, if_pos]
    · rw [← List.cons_append, List.drop_left]
      rfl
    · rw [List.isPrefixOf_iff_prefix, ← List.cons_append]
      exact List.prefix_append _ _
  | cons c before ih =>
    obtain rfl := h.text_eq
    have hnot : ¬ old.isPrefixOf (c :: (before ++ old ++ after)) = true := by
      intro hp
      obtain ⟨a, ha⟩ := List.isPrefixOf_iff_prefix.1 hp
      exact absurd (h.first [] a ha.symm) (Nat.not_succ_le_zero _)
    have hrest : FirstOccurrence old before after (before ++ old ++ after) := h.tail
    rw [List.cons_append, List.cons_append, replaceFirst, if_neg hnot, ih hrest]
    rfl

end Restyle
