import Restyle.Text.Encoding

/-!
# File text keeps its octets

However malformed a list of octets is, writing the glyphs that were read from it gives it back
(`toOctets_ofOctets`). The machine never forgets an octet: an encoding under way holds those it has
read, and whatever completes it spells the character that the bits give (`Pending.Sound`).

There is no lone surrogate in file text, so it can always be written (`encodes_ofOctets`). The other
way round, the octets of a string are read as this very string (`decodeStrict_octetsOf`).
-/

namespace Restyle.Text

/-! ## Encodings under way -/

/-- The bits read when some continuation octets follow. -/
def bitsWith (bits : Nat) (tail : Octets) : Nat :=
  tail.foldl (fun n b => n * 64 + (b.toNat - 0x80)) bits

theorem bitsWith_nil (bits : Nat) : bitsWith bits [] = bits := rfl

-- Not by `rfl`, which would compare the bits before and after.
theorem bitsWith_cons (bits : Nat) (b : UInt8) (tail : Octets) :
    bitsWith bits (b :: tail) = bitsWith (bits * 64 + (b.toNat - 0x80)) tail := by
  unfold bitsWith
  rw [List.foldl_cons]

/-- Octets that complete an encoding under way. -/
structure Pending.Completes (p : Pending) (b : UInt8) (tail : Octets) : Prop where
  first : p.low ≤ b ∧ b ≤ p.high
  owed : tail.length + 1 = p.owed
  tail : ∀ c ∈ tail, 0x80 ≤ c ∧ c ≤ 0xBF

/-- An encoding under way is above ASCII, and what completes it spells the character read. -/
structure Pending.Sound (p : Pending) : Prop where
  high : ∀ b ∈ p.seen, 0x80 ≤ b
  range : 0x80 ≤ p.low ∧ p.high ≤ 0xBF
  owed : 1 ≤ p.owed
  spells : ∀ b tail, p.Completes b tail →
    String.utf8EncodeChar (Char.ofNat (bitsWith p.bits (b :: tail))) = p.seen ++ b :: tail

/-- One continuation octet more. -/
theorem Pending.Sound.next {p : Pending} (h : p.Sound) {b : UInt8} (hb : p.low ≤ b ∧ b ≤ p.high)
    (howed : ¬ p.owed ≤ 1) :
    Pending.Sound ⟨p.owed - 1, 0x80, 0xBF, p.bits * 64 + (b.toNat - 0x80), p.seen ++ [b]⟩ where
  high := by
    intro c hc
    rcases List.mem_append.1 hc with hc | hc
    · exact h.high c hc
    · rw [List.mem_singleton.1 hc]
      exact UInt8.le_trans h.range.1 hb.1
  range := ⟨UInt8.le_refl _, UInt8.le_refl _⟩
  owed := by
    show 1 ≤ p.owed - 1
    omega
  spells := by
    intro c tail hc
    have hfirst : 0x80 ≤ c ∧ c ≤ 0xBF := hc.first
    have hlen : tail.length + 1 = p.owed - 1 := hc.owed
    -- What completes the encoding after `b` completes it with `b` in front.
    have hall : p.Completes b (c :: tail) := by
      refine ⟨hb, ?_, ?_⟩
      · rw [List.length_cons]
        omega
      · intro d hd
        rcases List.mem_cons.1 hd with rfl | hd
        · exact hfirst
        · exact hc.tail d hd
    have hspell := h.spells b (c :: tail) hall
    rw [bitsWith_cons] at hspell
    simp only [hspell, List.append_assoc, List.singleton_append]

/-- An octet that ends an encoding completes the character. -/
theorem Pending.Sound.last {p : Pending} (h : p.Sound) {b : UInt8} (hb : p.low ≤ b ∧ b ≤ p.high)
    (howed : p.owed ≤ 1) :
    String.utf8EncodeChar (Char.ofNat (p.bits * 64 + (b.toNat - 0x80))) = p.seen ++ [b] := by
  have hone := h.owed
  have hlen : ([] : Octets).length + 1 = p.owed := by
    rw [List.length_nil]
    omega
  have hspell := h.spells b [] ⟨hb, hlen, by simp⟩
  rwa [bitsWith_cons, bitsWith_nil] at hspell

/-! ## Encodings that begin -/

theorem tail_range {b low high : UInt8} (h : low ≤ b ∧ b ≤ high) :
    low.toNat ≤ b.toNat ∧ b.toNat ≤ high.toNat :=
  ⟨UInt8.le_iff_toNat_le.1 h.1, UInt8.le_iff_toNat_le.1 h.2⟩

theorem ofNat_eq {n : Nat} {b : UInt8} (h : n = b.toNat) : UInt8.ofNat n = b := by
  rw [h, UInt8.ofNat_toNat]

theorem forall_mem_single {a : UInt8} (h : 0x80 ≤ a.toNat) : ∀ b ∈ [a], 0x80 ≤ b := by
  intro b hb
  rw [List.mem_singleton.1 hb, UInt8.le_iff_toNat_le]
  exact h

/-- The first of two octets. -/
theorem sound_two {a : UInt8} (hlow : 0xC2 ≤ a.toNat) (hhigh : a.toNat < 0xE0) :
    Pending.Sound ⟨1, 0x80, 0xBF, a.toNat - 0xC0, [a]⟩ where
  high := forall_mem_single (by omega)
  range := ⟨UInt8.le_refl _, UInt8.le_refl _⟩
  owed := Nat.le_refl _
  spells := by
    intro b tail h
    have hnil : tail = [] := List.eq_nil_of_length_eq_zero (by simpa using h.owed)
    obtain ⟨hb, hb'⟩ : 0x80 ≤ b.toNat ∧ b.toNat ≤ 0xBF := tail_range h.first
    subst hnil
    simp only [bitsWith_cons, bitsWith_nil]
    rw [encode_two (by omega) (by omega), ofNat_eq (b := a) (by omega),
      ofNat_eq (b := b) (by omega)]
    rfl

/-- The first of three octets. The range of the second leaves out short forms and surrogates. -/
theorem sound_three {a low high : UInt8} {bits : Nat} (ha : a.toNat = bits + 0xE0)
    (hbits : bits < 16) (hrange : 0x80 ≤ low ∧ high ≤ 0xBF)
    (hsecond : ∀ n, low.toNat ≤ n → n ≤ high.toNat →
      32 ≤ bits * 64 + (n - 0x80) ∧
        (bits * 64 + (n - 0x80) < 864 ∨ 896 ≤ bits * 64 + (n - 0x80))) :
    Pending.Sound ⟨2, low, high, bits, [a]⟩ where
  high := forall_mem_single (by omega)
  range := hrange
  owed := Nat.le_add_left 1 _
  spells := by
    intro b tail h
    have hone : tail.length = 1 := by simpa using h.owed
    obtain ⟨c, rfl⟩ := List.length_eq_one_iff.1 hone
    obtain ⟨hb, hb'⟩ : low.toNat ≤ b.toNat ∧ b.toNat ≤ high.toNat := tail_range h.first
    obtain ⟨hc, hc'⟩ : 0x80 ≤ c.toNat ∧ c.toNat ≤ 0xBF := tail_range (h.tail c (by simp))
    have hlow : 0x80 ≤ low.toNat := UInt8.le_iff_toNat_le.1 hrange.1
    have hhigh : high.toNat ≤ 0xBF := UInt8.le_iff_toNat_le.1 hrange.2
    obtain ⟨hshort, hsurrogate⟩ := hsecond b.toNat hb hb'
    simp only [bitsWith_cons, bitsWith_nil]
    generalize hn : (bits * 64 + (b.toNat - 0x80)) * 64 + (c.toNat - 0x80) = n
    have hvalid : n.isValidChar := by
      rcases hsurrogate with hs | hs
      · exact .inl (by omega)
      · exact .inr ⟨by omega, by omega⟩
    rw [encode_three hvalid (by omega) (by omega), ofNat_eq (b := a) (by omega),
      ofNat_eq (b := b) (by omega), ofNat_eq (b := c) (by omega)]
    rfl

/-- The first of four octets. The range of the second leaves out short forms and everything above
U+10FFFF. -/
theorem sound_four {a low high : UInt8} {bits : Nat} (ha : a.toNat = bits + 0xF0)
    (hbits : bits < 8) (hrange : 0x80 ≤ low ∧ high ≤ 0xBF)
    (hsecond : ∀ n, low.toNat ≤ n → n ≤ high.toNat →
      16 ≤ bits * 64 + (n - 0x80) ∧ bits * 64 + (n - 0x80) < 272) :
    Pending.Sound ⟨3, low, high, bits, [a]⟩ where
  high := forall_mem_single (by omega)
  range := hrange
  owed := Nat.le_add_left 1 _
  spells := by
    intro b tail h
    have htwo : tail.length = 2 := by simpa using h.owed
    obtain ⟨c, rest, rfl⟩ := List.exists_cons_of_length_eq_add_one htwo
    obtain ⟨d, rfl⟩ := List.length_eq_one_iff.1 (Nat.succ.inj htwo)
    obtain ⟨hb, hb'⟩ : low.toNat ≤ b.toNat ∧ b.toNat ≤ high.toNat := tail_range h.first
    obtain ⟨hc, hc'⟩ : 0x80 ≤ c.toNat ∧ c.toNat ≤ 0xBF := tail_range (h.tail c (by simp))
    obtain ⟨hd, hd'⟩ : 0x80 ≤ d.toNat ∧ d.toNat ≤ 0xBF := tail_range (h.tail d (by simp))
    have hlow : 0x80 ≤ low.toNat := UInt8.le_iff_toNat_le.1 hrange.1
    have hhigh : high.toNat ≤ 0xBF := UInt8.le_iff_toNat_le.1 hrange.2
    obtain ⟨hshort, hlast⟩ := hsecond b.toNat hb hb'
    simp only [bitsWith_cons, bitsWith_nil]
    generalize hn :
      ((bits * 64 + (b.toNat - 0x80)) * 64 + (c.toNat - 0x80)) * 64 + (d.toNat - 0x80) = n
    rw [encode_four (by omega) (by omega), ofNat_eq (b := a) (by omega),
      ofNat_eq (b := b) (by omega), ofNat_eq (b := c) (by omega), ofNat_eq (b := d) (by omega)]
    rfl

/-! ## The machine forgets nothing -/

/-- The octets of a piece. -/
def Piece.octets : Piece → Octets
  | .char c => String.utf8EncodeChar c
  | .malformed run => run

/-- The octets of an encoding under way. -/
def seenOf : Option Pending → Octets
  | none => []
  | some p => p.seen

theorem seenOf_none : seenOf none = [] := rfl

/-- What the machine gives for some octets: pieces and an encoding under way that have them all, in
order. Malformed octets are above ASCII. -/
structure Faithful (bytes : Octets) (given : List Piece × Option Pending) : Prop where
  octets : given.1.flatMap Piece.octets ++ seenOf given.2 = bytes
  high : ∀ run, Piece.malformed run ∈ given.1 → ∀ b ∈ run, 0x80 ≤ b
  sound : ∀ p, given.2 = some p → p.Sound

theorem faithful_pending {owed bits : Nat} {low high : UInt8} {run : Octets}
    (h : Pending.Sound ⟨owed, low, high, bits, run⟩) :
    Faithful run ([], some ⟨owed, low, high, bits, run⟩) where
  octets := rfl
  high := by simp
  sound := by
    rintro _ ⟨⟩
    exact h

theorem faithful_malformed {run : Octets} (h : ∀ b ∈ run, 0x80 ≤ b) :
    Faithful run ([.malformed run], none) where
  octets := by simp [Piece.octets, seenOf]
  high := by
    intro other hmem
    rw [List.mem_singleton] at hmem
    cases hmem
    exact h
  sound := by simp

theorem faithful_char {c : Char} {bytes : Octets} (h : String.utf8EncodeChar c = bytes) :
    Faithful bytes ([.char c], none) where
  octets := by simp [Piece.octets, seenOf, h]
  high := by simp
  sound := by simp

/-- The octet that ends an encoding as malformed is looked at afresh. -/
theorem Faithful.after {run bytes : Octets} {given : List Piece × Option Pending}
    (hrun : ∀ b ∈ run, 0x80 ≤ b) (h : Faithful bytes given) :
    Faithful (run ++ bytes) (.malformed run :: given.1, given.2) where
  octets := by
    rw [List.flatMap_cons, List.append_assoc, h.octets]
    rfl
  high := by
    intro other hmem
    rcases List.mem_cons.1 hmem with heq | hmem
    · cases heq
      exact hrun
    · exact h.high other hmem
  sound := h.sound

theorem encode_ascii {b : UInt8} (h : b.toNat < 0x80) :
    String.utf8EncodeChar (Char.ofNat b.toNat) = [b] := by
  have hchar : (Char.ofNat b.toNat).toNat = b.toNat := toNat_ofNat_of_valid (.inl (by omega))
  rw [utf8EncodeChar_of_lt (by omega), hchar, UInt8.ofNat_toNat]

theorem faithful_ite {bytes : Octets} {c : Prop} [Decidable c]
    {given given' : List Piece × Option Pending} (h : c → Faithful bytes given)
    (h' : ¬ c → Faithful bytes given') : Faithful bytes (if c then given else given') := by
  by_cases hc : c
  · rw [if_pos hc]
    exact h hc
  · rw [if_neg hc]
    exact h' hc

theorem faithful_begin (b : UInt8) : Faithful [b] (begin b) := by
  have hb := b.toNat_lt
  simp only [begin, UInt8.lt_iff_toNat_lt, ← UInt8.toNat_inj, UInt8.reduceToNat]
  -- ASCII, then the octets that begin nothing, then the first octets by the length they announce.
  refine faithful_ite (fun h => faithful_char (encode_ascii h)) fun _ => ?_
  refine faithful_ite (fun _ => faithful_malformed (forall_mem_single (by omega))) fun _ => ?_
  refine faithful_ite (fun _ => faithful_pending (sound_two (by omega) (by omega))) fun _ => ?_
  refine faithful_ite (fun _ => faithful_pending ?_) fun _ => ?_
  · exact sound_three (by omega) (by omega) (by decide) (by simp only [UInt8.reduceToNat]; omega)
  refine faithful_ite (fun _ => faithful_pending ?_) fun _ => ?_
  · exact sound_three (by omega) (by omega) (by decide) (by simp only [UInt8.reduceToNat]; omega)
  refine faithful_ite (fun _ => faithful_pending ?_) fun _ => ?_
  · exact sound_three (by omega) (by omega) (by decide) (by simp only [UInt8.reduceToNat]; omega)
  refine faithful_ite (fun _ => faithful_pending ?_) fun _ => ?_
  · exact sound_four (by omega) (by omega) (by decide) (by simp only [UInt8.reduceToNat]; omega)
  refine faithful_ite (fun _ => faithful_pending ?_) fun _ => ?_
  · exact sound_four (by omega) (by omega) (by decide) (by simp only [UInt8.reduceToNat]; omega)
  refine faithful_ite (fun _ => faithful_pending ?_) fun _ => ?_
  · exact sound_four (by omega) (by omega) (by decide) (by simp only [UInt8.reduceToNat]; omega)
  · exact faithful_malformed (forall_mem_single (by omega))

theorem faithful_advance {under : Option Pending} (hunder : ∀ p, under = some p → p.Sound)
    (b : UInt8) : Faithful (seenOf under ++ [b]) (advance under b) := by
  cases under with
  | none => exact faithful_begin b
  | some p =>
    have hp := hunder p rfl
    by_cases hb : p.low ≤ b ∧ b ≤ p.high
    · -- The octet continues the encoding: it is the last one, or more are owed.
      by_cases howed : p.owed ≤ 1
      · simp only [advance, if_pos hb, if_pos howed]
        exact faithful_char (hp.last hb howed)
      · simp only [advance, if_pos hb, if_neg howed]
        exact faithful_pending (hp.next hb howed)
    · simp only [advance, if_neg hb]
      exact (faithful_begin b).after hp.high

/-- The pieces have all octets, in order, and malformed octets are above ASCII. -/
theorem faithful_decodeFrom (bytes : Octets) : ∀ {under : Option Pending},
    (∀ p, under = some p → p.Sound) →
      Faithful (seenOf under ++ bytes) (decodeFrom under bytes, none) := by
  induction bytes with
  | nil =>
    intro under hunder
    cases under with
    | none => exact ⟨rfl, by simp [decodeFrom], by simp⟩
    | some p =>
      have h := faithful_malformed (hunder p rfl).high
      simpa [decodeFrom, seenOf] using h
  | cons b rest ih =>
    intro under hunder
    have hstep := faithful_advance hunder b
    have hrest := ih hstep.sound
    have hdecode : decodeFrom under (b :: rest) =
        (advance under b).1 ++ decodeFrom (advance under b).2 rest := by
      cases under <;> rfl
    rw [hdecode]
    -- The step has the octets up to `b`, the rest of the run those behind it.
    refine ⟨?_, ?_, by simp⟩
    · have hoctets := hrest.octets
      simp only [seenOf_none, List.append_nil] at hoctets ⊢
      rw [List.flatMap_append, hoctets, ← List.append_assoc, hstep.octets, List.append_assoc,
        List.singleton_append]
    · intro run hmem
      rcases List.mem_append.1 hmem with hmem | hmem
      · exact hstep.high run hmem
      · exact hrest.high run hmem

/-! ## File text -/

/-- The glyphs of a piece. -/
def Piece.glyphs : Piece → List Glyph
  | .char c => [.char c]
  | .malformed run => run.map Glyph.ofOctet

theorem ofOctets_eq (bytes : Octets) : Glyph.ofOctets bytes = (decode bytes).flatMap Piece.glyphs :=
  rfl

theorem octets_ofOctet (b : UInt8) : (Glyph.ofOctet b).octets = [b] := by
  rw [Glyph.ofOctet]
  split
  · rfl
  · rename_i hlow
    exact encode_ascii (UInt8.lt_iff_toNat_lt.1 (UInt8.not_le.1 hlow))

theorem toOctets_glyphs (p : Piece) : Glyph.toOctets p.glyphs = p.octets := by
  cases p with
  | char c => simp [Piece.glyphs, Piece.octets, Glyph.toOctets, Glyph.octets]
  | malformed run =>
    simp [Piece.glyphs, Piece.octets, Glyph.toOctets, octets_ofOctet, List.flatMap_map]

theorem faithful_decode (bytes : Octets) : Faithful bytes (decode bytes, none) :=
  @faithful_decodeFrom bytes none (by simp)

/-- File text has the octets it was read from. -/
theorem toOctets_ofOctets (bytes : Octets) : Glyph.toOctets (Glyph.ofOctets bytes) = bytes := by
  have hoctets := (faithful_decode bytes).octets
  simp only [seenOf_none, List.append_nil] at hoctets
  rw [ofOctets_eq, Glyph.toOctets, List.flatMap_assoc]
  calc (decode bytes).flatMap (fun p => Glyph.toOctets p.glyphs)
      = (decode bytes).flatMap Piece.octets := by simp only [toOctets_glyphs]
    _ = bytes := hoctets

theorem isEncodable_ofOctet (b : UInt8) : (Glyph.ofOctet b).isEncodable = true := by
  rw [Glyph.ofOctet]
  split <;> rfl

/-- File text can be written. -/
theorem encodes_ofOctets (bytes : Octets) : Glyph.encodes (Glyph.ofOctets bytes) = true := by
  rw [Glyph.encodes, List.all_eq_true]
  intro g hg
  rw [ofOctets_eq, List.mem_flatMap] at hg
  obtain ⟨p, -, hg⟩ := hg
  cases p with
  | char c =>
    rw [Piece.glyphs, List.mem_singleton] at hg
    rw [hg]
    rfl
  | malformed run =>
    obtain ⟨b, -, rfl⟩ := List.mem_map.1 hg
    exact isEncodable_ofOctet b

/-! ## Written text is read again -/

theorem decodeFrom_begin {b : UInt8} {p : Pending} (h : begin b = ([], some p)) (rest : Octets) :
    decodeFrom none (b :: rest) = decodeFrom (some p) rest := by
  rw [decodeFrom, advance, h]
  rfl

theorem decodeFrom_more {p : Pending} {b : UInt8} (hb : p.low ≤ b ∧ b ≤ p.high)
    (howed : ¬ p.owed ≤ 1) (rest : Octets) : decodeFrom (some p) (b :: rest) =
      decodeFrom (some ⟨p.owed - 1, 0x80, 0xBF, p.bits * 64 + (b.toNat - 0x80), p.seen ++ [b]⟩)
        rest := by
  simp only [decodeFrom, advance, if_pos hb, if_neg howed, List.nil_append]

theorem decodeFrom_last {p : Pending} {b : UInt8} (hb : p.low ≤ b ∧ b ≤ p.high)
    (howed : p.owed ≤ 1) (rest : Octets) : decodeFrom (some p) (b :: rest) =
      .char (Char.ofNat (p.bits * 64 + (b.toNat - 0x80))) :: decodeFrom none rest := by
  simp only [decodeFrom, advance, if_pos hb, if_pos howed, List.singleton_append]

theorem begin_two {b : UInt8} (hlow : 0xC2 ≤ b.toNat) (hhigh : b.toNat < 0xE0) :
    begin b = ([], some ⟨1, 0x80, 0xBF, b.toNat - 0xC0, [b]⟩) := by
  simp only [begin, UInt8.lt_iff_toNat_lt, ← UInt8.toNat_inj, UInt8.reduceToNat]
  rw [if_neg (by omega), if_neg (by omega), if_pos (by omega)]

/-- The first of three octets. The second one is in a smaller range behind the lowest of them, and
behind the one that the surrogates begin with. -/
theorem begin_three {b : UInt8} (hlow : 0xE0 ≤ b.toNat) (hhigh : b.toNat < 0xF0) :
    ∃ low high, begin b = ([], some ⟨2, low, high, b.toNat - 0xE0, [b]⟩) ∧
      low.toNat = (if b.toNat = 0xE0 then 0xA0 else 0x80) ∧
      high.toNat = if b.toNat = 0xED then 0x9F else 0xBF := by
  simp only [begin, UInt8.lt_iff_toNat_lt, ← UInt8.toNat_inj, UInt8.reduceToNat]
  rw [if_neg (by omega), if_neg (by omega), if_neg (by omega)]
  by_cases hfirst : b.toNat = 0xE0
  · exact ⟨0xA0, 0xBF, by rw [if_pos hfirst, hfirst], by rw [if_pos hfirst]; rfl,
      by rw [if_neg (by omega)]; rfl⟩
  by_cases hsurrogate : b.toNat = 0xED
  · exact ⟨0x80, 0x9F, by rw [if_neg hfirst, if_pos hsurrogate, hsurrogate],
      by rw [if_neg hfirst]; rfl, by rw [if_pos hsurrogate]; rfl⟩
  · exact ⟨0x80, 0xBF, by rw [if_neg hfirst, if_neg hsurrogate, if_pos hhigh],
      by rw [if_neg hfirst]; rfl, by rw [if_neg hsurrogate]; rfl⟩

/-- The first of four octets. The second one is in a smaller range behind the lowest and the highest of
them. -/
theorem begin_four {b : UInt8} (hlow : 0xF0 ≤ b.toNat) (hhigh : b.toNat ≤ 0xF4) :
    ∃ low high, begin b = ([], some ⟨3, low, high, b.toNat - 0xF0, [b]⟩) ∧
      low.toNat = (if b.toNat = 0xF0 then 0x90 else 0x80) ∧
      high.toNat = if b.toNat = 0xF4 then 0x8F else 0xBF := by
  simp only [begin, UInt8.lt_iff_toNat_lt, ← UInt8.toNat_inj, UInt8.reduceToNat]
  rw [if_neg (by omega), if_neg (by omega), if_neg (by omega), if_neg (by omega), if_neg (by omega),
    if_neg (by omega)]
  by_cases hfirst : b.toNat = 0xF0
  · exact ⟨0x90, 0xBF, by rw [if_pos hfirst, hfirst], by rw [if_pos hfirst]; rfl,
      by rw [if_neg (by omega)]; rfl⟩
  by_cases hlast : b.toNat = 0xF4
  · exact ⟨0x80, 0x8F, by rw [if_neg hfirst, if_neg (by omega), if_pos hlast, hlast],
      by rw [if_neg hfirst]; rfl, by rw [if_pos hlast]; rfl⟩
  · exact ⟨0x80, 0xBF, by rw [if_neg hfirst, if_pos (by omega)],
      by rw [if_neg hfirst]; rfl, by rw [if_neg hlast]; rfl⟩

theorem toNat_ofNat_of_lt {n : Nat} (h : n < 256) : (UInt8.ofNat n).toNat = n := by
  rw [UInt8.toNat_ofNat']
  exact Nat.mod_eq_of_lt h

/-- A number that two octets spell is read from them. -/
theorem decode_two {n : Nat} (hlow : 0x80 ≤ n) (hhigh : n < 0x800) (rest : Octets) :
    decodeFrom none (UInt8.ofNat (n / 64 + 0xC0) :: UInt8.ofNat (n % 64 + 0x80) :: rest) =
      .char (Char.ofNat n) :: decodeFrom none rest := by
  have ha := toNat_ofNat_of_lt (n := n / 64 + 0xC0) (by omega)
  have hb := toNat_ofNat_of_lt (n := n % 64 + 0x80) (by omega)
  generalize UInt8.ofNat (n / 64 + 0xC0) = a at ha ⊢
  generalize UInt8.ofNat (n % 64 + 0x80) = b at hb ⊢
  have hrange : (0x80 : UInt8) ≤ b ∧ b ≤ 0xBF := by
    simp only [UInt8.le_iff_toNat_le, UInt8.reduceToNat]
    omega
  have hbits : (a.toNat - 0xC0) * 64 + (b.toNat - 0x80) = n := by omega
  rw [decodeFrom_begin (begin_two (by omega) (by omega)), decodeFrom_last hrange (Nat.le_refl 1), hbits]

theorem decode_three {n : Nat} (hvalid : n.isValidChar) (hlow : 0x800 ≤ n) (hhigh : n < 0x10000)
    (rest : Octets) :
    decodeFrom none (UInt8.ofNat (n / 4096 + 0xE0) :: UInt8.ofNat (n / 64 % 64 + 0x80) ::
      UInt8.ofNat (n % 64 + 0x80) :: rest) = .char (Char.ofNat n) :: decodeFrom none rest := by
  have ha := toNat_ofNat_of_lt (n := n / 4096 + 0xE0) (by omega)
  have hb := toNat_ofNat_of_lt (n := n / 64 % 64 + 0x80) (by omega)
  have hc := toNat_ofNat_of_lt (n := n % 64 + 0x80) (by omega)
  generalize UInt8.ofNat (n / 4096 + 0xE0) = a at ha ⊢
  generalize UInt8.ofNat (n / 64 % 64 + 0x80) = b at hb ⊢
  generalize UInt8.ofNat (n % 64 + 0x80) = c at hc ⊢
  obtain ⟨low, high, hbegin, hl, hh⟩ := begin_three (b := a) (by omega) (by omega)
  -- No surrogates: they would be the second half of what begins with 0xED.
  have hsecond : low ≤ b ∧ b ≤ high := by
    rw [UInt8.le_iff_toNat_le, UInt8.le_iff_toNat_le, hl, hh]
    unfold Nat.isValidChar at hvalid
    split <;> split <;> omega
  have hthird : (0x80 : UInt8) ≤ c ∧ c ≤ 0xBF := by
    simp only [UInt8.le_iff_toNat_le, UInt8.reduceToNat]
    omega
  have hbits : ((a.toNat - 0xE0) * 64 + (b.toNat - 0x80)) * 64 + (c.toNat - 0x80) = n := by omega
  rw [decodeFrom_begin hbegin, decodeFrom_more hsecond (by simp),
    decodeFrom_last hthird (Nat.le_refl 1), hbits]

theorem decode_four {n : Nat} (hlow : 0x10000 ≤ n) (hhigh : n < 0x110000) (rest : Octets) :
    decodeFrom none (UInt8.ofNat (n / 262144 + 0xF0) :: UInt8.ofNat (n / 4096 % 64 + 0x80) ::
      UInt8.ofNat (n / 64 % 64 + 0x80) :: UInt8.ofNat (n % 64 + 0x80) :: rest) =
      .char (Char.ofNat n) :: decodeFrom none rest := by
  have ha := toNat_ofNat_of_lt (n := n / 262144 + 0xF0) (by omega)
  have hb := toNat_ofNat_of_lt (n := n / 4096 % 64 + 0x80) (by omega)
  have hc := toNat_ofNat_of_lt (n := n / 64 % 64 + 0x80) (by omega)
  have hd := toNat_ofNat_of_lt (n := n % 64 + 0x80) (by omega)
  generalize UInt8.ofNat (n / 262144 + 0xF0) = a at ha ⊢
  generalize UInt8.ofNat (n / 4096 % 64 + 0x80) = b at hb ⊢
  generalize UInt8.ofNat (n / 64 % 64 + 0x80) = c at hc ⊢
  generalize UInt8.ofNat (n % 64 + 0x80) = d at hd ⊢
  obtain ⟨low, high, hbegin, hl, hh⟩ := begin_four (b := a) (by omega) (by omega)
  have hsecond : low ≤ b ∧ b ≤ high := by
    rw [UInt8.le_iff_toNat_le, UInt8.le_iff_toNat_le, hl, hh]
    split <;> split <;> omega
  have hthird : (0x80 : UInt8) ≤ c ∧ c ≤ 0xBF := by
    simp only [UInt8.le_iff_toNat_le, UInt8.reduceToNat]
    omega
  have hfourth : (0x80 : UInt8) ≤ d ∧ d ≤ 0xBF := by
    simp only [UInt8.le_iff_toNat_le, UInt8.reduceToNat]
    omega
  have hbits : (((a.toNat - 0xF0) * 64 + (b.toNat - 0x80)) * 64 + (c.toNat - 0x80)) * 64 +
      (d.toNat - 0x80) = n := by omega
  rw [decodeFrom_begin hbegin, decodeFrom_more hsecond (by simp),
    decodeFrom_more hthird (by simp), decodeFrom_last hfourth (Nat.le_refl 1), hbits]

/-- The encoding of a character is read as this character. -/
theorem decodeFrom_encode (c : Char) (rest : Octets) :
    decodeFrom none (String.utf8EncodeChar c ++ rest) = .char c :: decodeFrom none rest := by
  obtain ⟨n, hn, hc⟩ : ∃ n, n.isValidChar ∧ c = Char.ofNat n :=
    ⟨c.toNat, c.valid, (Char.ofNat_toNat c).symm⟩
  rw [hc]
  by_cases hone : n < 0x80
  · obtain ⟨b, rfl⟩ : ∃ b : UInt8, n = b.toNat :=
      ⟨UInt8.ofNat n, (toNat_ofNat_of_lt (by omega)).symm⟩
    rw [encode_ascii hone, List.singleton_append, decodeFrom, advance, begin,
      if_pos (UInt8.lt_iff_toNat_lt.2 hone)]
    rfl
  by_cases htwo : n < 0x800
  · rw [encode_two (by omega) htwo]
    exact decode_two (by omega) htwo rest
  by_cases hthree : n < 0x10000
  · rw [encode_three hn (by omega) hthree]
    exact decode_three hn (by omega) hthree rest
  · have hbound : n < 0x110000 := by
      unfold Nat.isValidChar at hn
      omega
    rw [encode_four (by omega) hbound]
    exact decode_four (by omega) hbound rest

/-- The octets of a text are read as its characters. -/
theorem decode_octetsOf (s : String) : decode (octetsOf s) = s.toList.map .char := by
  unfold decode octetsOf
  induction s.toList with
  | nil => rfl
  | cons c rest ih => rw [List.flatMap_cons, decodeFrom_encode, ih, List.map_cons]

theorem strictChars_map_char (cs : List Char) : strictChars (cs.map .char) = some cs := by
  induction cs with
  | nil => rfl
  | cons c rest ih => rw [List.map_cons, strictChars, ih, Option.map_some]

/-- A text is read as it was written. -/
theorem decodeStrict_octetsOf (s : String) : decodeStrict (octetsOf s) = some s := by
  rw [decodeStrict, decode_octetsOf, strictChars_map_char, Option.map_some, String.ofList_toList]

end Restyle.Text
