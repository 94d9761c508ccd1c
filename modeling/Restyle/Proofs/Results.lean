import Mathlib.Data.List.Basic

/-!
# Results of steps that may fail

Two steps one after the other give something if both do, and fail where the first of them fails. The
same holds for a list of steps: what they give is what each gives (`mem_of_mapM`, `mapM_map_ok`), and
they fail where the first of them fails (`mapM_eq_error_iff`). Results that cannot be compared as a whole
are tested instead (`gives`).
-/

namespace Restyle

variable {ε β γ δ : Type}

/-! ## Single steps -/

section Single

variable {x : Except ε β}

theorem map_eq_error_iff {f : β → γ} {e : ε} : x.map f = .error e ↔ x = .error e := by
  cases x with
  | ok b => simp [Except.map]
  | error e' => simp [Except.map]

end Single

/-! ## Two steps -/

section Bind

variable {x : Except ε β} {f : β → Except ε γ}

theorem bind_of_ok {b : β} (h : x = .ok b) : x >>= f = f b := by
  rw [h]
  rfl

theorem bind_of_error {e : ε} (h : x = .error e) : x >>= f = .error e := by
  rw [h]
  rfl

theorem exists_of_bind_ok {c : γ} (h : x >>= f = .ok c) : ∃ b, x = .ok b ∧ f b = .ok c := by
  cases x with
  | error e => cases h
  | ok b => exact ⟨b, rfl, h⟩

theorem exists_of_bind_error {e : ε} (h : x >>= f = .error e) :
    x = .error e ∨ ∃ b, x = .ok b ∧ f b = .error e := by
  cases x with
  | error e' =>
    obtain rfl : e' = e := Except.error.inj h
    exact .inl rfl
  | ok b => exact .inr ⟨b, rfl, h⟩

end Bind

/-! ## Lists of steps -/

/-- Steps that all go through give a list of what they come to. -/
theorem mapM_map_ok {f : γ → Except ε δ} {item : β → γ} {g : β → δ} {bs : List β}
    (h : ∀ b ∈ bs, f (item b) = .ok (g b)) : (bs.map item).mapM f = .ok (bs.map g) := by
  induction bs with
  | nil => rfl
  | cons b bs ih =>
    rw [List.forall_mem_cons] at h
    rw [List.map_cons, List.mapM_cons, bind_of_ok h.1, bind_of_ok (ih h.2)]
    rfl

/-- Steps that all give something: what each gives is there, and nothing else is. -/
theorem mem_of_mapM {f : β → Except ε γ} {bs : List β} {cs : List γ} (h : bs.mapM f = .ok cs) :
    (∀ c ∈ cs, ∃ b ∈ bs, f b = .ok c) ∧ ∀ b ∈ bs, ∃ c ∈ cs, f b = .ok c := by
  induction bs generalizing cs with
  | nil =>
    cases h
    simp
  | cons b bs ih =>
    rw [List.mapM_cons] at h
    obtain ⟨c, hb, h⟩ := exists_of_bind_ok h
    obtain ⟨rest, hbs, h⟩ := exists_of_bind_ok h
    obtain rfl : c :: rest = cs := Except.ok.inj h
    obtain ⟨hout, hin⟩ := ih hbs
    refine ⟨List.forall_mem_cons.2 ⟨⟨b, List.mem_cons_self, hb⟩, fun d hd => ?_⟩,
      List.forall_mem_cons.2 ⟨⟨c, List.mem_cons_self, hb⟩, fun d hd => ?_⟩⟩
    · obtain ⟨a, ha, hfa⟩ := hout d hd
      exact ⟨a, List.mem_cons_of_mem b ha, hfa⟩
    · obtain ⟨a, ha, hfa⟩ := hin d hd
      exact ⟨a, List.mem_cons_of_mem c ha, hfa⟩

/-- What is told of each step's result is told of the list of them. -/
theorem map_of_mapM {f : β → Except ε γ} {k : γ → δ} {g : β → δ} (hk : ∀ b c, f b = .ok c → k c = g b)
    {bs : List β} {cs : List γ} (h : bs.mapM f = .ok cs) : cs.map k = bs.map g := by
  induction bs generalizing cs with
  | nil =>
    cases h
    rfl
  | cons b bs ih =>
    rw [List.mapM_cons] at h
    obtain ⟨c, hb, h⟩ := exists_of_bind_ok h
    obtain ⟨rest, hbs, h⟩ := exists_of_bind_ok h
    obtain rfl : c :: rest = cs := Except.ok.inj h
    rw [List.map_cons, List.map_cons, hk b c hb, ih hbs]

/-- The failure of a list of steps is that of the first step that fails. -/
theorem mapM_eq_error_iff {f : β → Except ε γ} {bs : List β} {e : ε} :
    bs.mapM f = .error e ↔ ∃ before b after, bs = before ++ b :: after ∧
      (∀ a ∈ before, ∃ c, f a = .ok c) ∧ f b = .error e := by
  induction bs with
  | nil =>
    constructor
    · intro h
      cases h
    · rintro ⟨before, b, after, hsplit, -⟩
      exact absurd hsplit.symm (by simp)
  | cons first bs ih =>
    rw [List.mapM_cons]
    constructor
    · intro h
      rcases exists_of_bind_error h with hfirst | ⟨c, hfirst, h⟩
      · exact ⟨[], first, bs, rfl, by simp, hfirst⟩
      rcases exists_of_bind_error h with hrest | ⟨cs, -, h⟩
      · obtain ⟨before, b, after, rfl, hbefore, hb⟩ := ih.1 hrest
        exact ⟨first :: before, b, after, rfl, List.forall_mem_cons.2 ⟨⟨c, hfirst⟩, hbefore⟩, hb⟩
      · cases h
    · rintro ⟨before, b, after, hsplit, hbefore, hb⟩
      cases before with
      | nil =>
        obtain ⟨rfl, rfl⟩ := List.cons.inj hsplit
        exact bind_of_error hb
      | cons a before =>
        obtain ⟨rfl, rfl⟩ := List.cons.inj hsplit
        rw [List.forall_mem_cons] at hbefore
        obtain ⟨⟨c, hc⟩, hbefore⟩ := hbefore
        rw [bind_of_ok hc]
        exact bind_of_error (ih.2 ⟨before, b, after, rfl, hbefore, hb⟩)

theorem exists_of_mapM_error {f : β → Except ε γ} {bs : List β} {e : ε} (h : bs.mapM f = .error e) :
    ∃ b ∈ bs, f b = .error e := by
  obtain ⟨before, b, after, rfl, -, hb⟩ := mapM_eq_error_iff.1 h
  exact ⟨b, List.mem_append_right before List.mem_cons_self, hb⟩

/-- A list of steps fails if one of them fails. -/
theorem mapM_fails_iff {f : β → Except ε γ} {bs : List β} :
    (∃ e, bs.mapM f = .error e) ↔ ∃ b ∈ bs, ∃ e, f b = .error e := by
  constructor
  · rintro ⟨e, h⟩
    obtain ⟨b, hb, hfail⟩ := exists_of_mapM_error h
    exact ⟨b, hb, e, hfail⟩
  · rintro ⟨b, hb, e, hfail⟩
    cases h : bs.mapM f with
    | error e' => exact ⟨e', rfl⟩
    | ok cs =>
      obtain ⟨c, -, hc⟩ := (mem_of_mapM h).2 b hb
      rw [hfail] at hc
      cases hc

/-! ## Tests of results -/

/-- Whether a step gives something that passes a test. -/
def gives (p : β → Bool) : Except ε β → Bool
  | .ok b => p b
  | .error _ => false

theorem exists_of_gives {p : β → Bool} {x : Except ε β} (h : gives p x = true) :
    ∃ b, x = .ok b ∧ p b = true := by
  cases x with
  | error e => cases h
  | ok b => exact ⟨b, rfl, h⟩

theorem eq_ok_of_gives [DecidableEq β] {x : Except ε β} {b : β}
    (h : gives (fun c => c = b) x = true) : x = .ok b := by
  obtain ⟨c, rfl, hc⟩ := exists_of_gives h
  rw [of_decide_eq_true hc]

end Restyle
