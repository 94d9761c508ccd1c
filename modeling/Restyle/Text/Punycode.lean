import Restyle.Text.Glyph

/-!
# Punycode

A text in ASCII alone. Its ASCII characters come first; then, after a hyphen, the others are inserted
in the order of the code points. For each of them a number tells how many slots are passed over on
the way to its own, in digits to the base 36 of which each has a weight that depends on a bias. The
bias adapts to the numbers so far, so that texts of one script stay short.

Writing and reading agree on the slots: one is found again by its distance (`advance_distance`).
-/

namespace Restyle.Text.Punycode

/-- The base of the digits. -/
def base : Nat := 36

/-- The first code point that is inserted. -/
def firstInserted : Nat := 128

/-- The bias at the start. -/
def firstBias : Nat := 72

/-- At a place of a number, a digit below this one is the last. -/
def threshold (bias place : Nat) : Nat :=
  min 26 (max 1 (place - bias))

theorem threshold_pos (bias place : Nat) : 0 < threshold bias place := by
  unfold threshold
  omega

/-- The bias that suits numbers of a size: a step of the base for each division that it takes to get
a small number, and a part of a step for what is left. -/
def biasFor (n : Nat) : Nat :=
  if 455 < n then base + biasFor (n / 35) else base * n / (n + 38)
termination_by n
decreasing_by omega

/-- The bias after a number, where so many characters stand. The first number is a long way. -/
def adapt (delta count : Nat) (isFirst : Bool) : Nat :=
  let damped := delta / (if isFirst then 700 else 2)
  biasFor (damped + damped / count)

/-! ### Slots -/

/-- Where a character can be inserted: its code point, and the number of characters before it. Slots
are passed over by code points first. -/
structure Slot where
  point : Nat
  place : Nat
  deriving DecidableEq, Repr

namespace Slot

/-- The number of slots that are passed over on the way to a later slot, where so many characters
stand. -/
def distance (count : Nat) (a b : Slot) : Nat :=
  (b.point - a.point) * (count + 1) + b.place - a.place

/-- The slot that comes after so many others. -/
def advance (count : Nat) (a : Slot) (delta : Nat) : Slot :=
  ⟨a.point + (a.place + delta) / (count + 1), (a.place + delta) % (count + 1)⟩

/-- A slot is found again by its distance. -/
theorem advance_distance {count : Nat} {a b : Slot} (hp : a.point ≤ b.point)
    (hb : b.place ≤ count)
    (h : a.place ≤ (b.point - a.point) * (count + 1) + b.place) :
    a.advance count (distance count a b) = b := by
  have passed : a.place + distance count a b = b.place + (b.point - a.point) * (count + 1) := by
    unfold distance
    omega
  have hb : b.place < count + 1 := Nat.lt_succ_of_le hb
  rw [advance, passed, Nat.add_mul_div_right _ _ (Nat.succ_pos count), Nat.add_mul_mod_self_right,
    Nat.div_eq_of_lt hb, Nat.mod_eq_of_lt hb, Nat.zero_add, Nat.add_sub_cancel' hp]

/-- The slot behind an inserted character. -/
def behind (a : Slot) : Slot :=
  ⟨a.point, a.place + 1⟩

/-- The slot before all others. -/
def first : Slot :=
  ⟨firstInserted, 0⟩

end Slot

/-! ### Writing -/

/-- A digit as a character: letters first, then figures. -/
def digitChar (d : Nat) : Char :=
  if d < 26 then Char.ofNat (97 + d) else Char.ofNat (22 + d)

/-- The digits of a number, from a place on. -/
def digits (bias place n : Nat) : List Char :=
  let least := threshold bias place
  if n < least then [digitChar n]
  else
    digitChar (least + (n - least) % (base - least)) ::
      digits bias (place + base) ((n - least) / (base - least))
termination_by n
decreasing_by
  have := threshold_pos bias place
  have := Nat.div_le_self (n - threshold bias place) (base - threshold bias place)
  omega

/-- Whether a character stands from the start. -/
def isBasic (c : Char) : Bool :=
  c.toNat < firstInserted

/-- The slots of the characters that are inserted, in the order of the text. Before a character
stand those of lower code points, and those of its own. -/
def slotsFrom (before : List Char) : List Char → List Slot
  | [] => []
  | c :: rest =>
    let others := slotsFrom (c :: before) rest
    if isBasic c then others else ⟨c.toNat, before.countP (· ≤ c)⟩ :: others

/-- The slots of the characters that are inserted, in the order of the insertions. -/
def slots (text : List Char) : List Slot :=
  (slotsFrom [] text).mergeSort fun a b => a.point ≤ b.point

/-- The numbers that lead from a slot to others, where so many characters stand. -/
def numbers (isFirst : Bool) (bias count : Nat) (here : Slot) : List Slot → List Char
  | [] => []
  | next :: rest =>
    let delta := here.distance count next
    digits bias base delta ++
      numbers false (adapt delta (count + 1) isFirst) (count + 1) next.behind rest

/-- A text as Punycode. -/
def encode (text : List Char) : List Char :=
  let basic := text.filter isBasic
  let lead := if basic = [] then [] else basic ++ ['-']
  lead ++ numbers true firstBias basic.length Slot.first (slots text)

/-! ### Reading -/

/-- The value of a digit; capital letters count as small ones. -/
def digit? (c : Char) : Option Nat :=
  if 'a' ≤ c ∧ c ≤ 'z' then some (c.toNat - 97)
  else if 'A' ≤ c ∧ c ≤ 'Z' then some (c.toNat - 65)
  else if c.isDigit then some (c.toNat - 22)
  else none

/-- The number at the front of digits, and what follows it. -/
def number? (bias place weight value : Nat) : List Char → Option (Nat × List Char)
  | [] => none
  | c :: rest =>
    (digit? c).bind fun d =>
      let least := threshold bias place
      let value := value + d * weight
      if d < least then some (value, rest)
      else number? bias (place + base) (weight * (base - least)) value rest

theorem length_of_number? {cs rest : List Char} {bias place weight value n : Nat}
    (h : number? bias place weight value cs = some (n, rest)) : rest.length < cs.length := by
  induction cs generalizing place weight value with
  | nil => simp [number?] at h
  | cons c tail ih =>
    simp only [number?, Option.bind_eq_some_iff] at h
    obtain ⟨d, -, hd⟩ := h
    split at hd
    · simp only [Option.some.injEq, Prod.mk.injEq] at hd
      rw [← hd.2]
      exact Nat.lt_succ_self _
    · exact Nat.lt_succ_of_lt (ih hd)

/-- What is known while digits are read: the text so far, the slot after the last insertion, and the
bias. -/
structure Insertion where
  text : List Glyph
  slot : Slot
  bias : Nat

/-- The character that is inserted for a number beyond Unicode. -/
def beyond : Char := '?'

/-- Inserts the glyph of a code point after a number of slots. -/
def Insertion.insert (i : Insertion) (delta : Nat) (isFirst : Bool) : Insertion :=
  let count := i.text.length
  let reached := i.slot.advance count delta
  let g := (Glyph.ofCodePoint? reached.point).getD (.char beyond)
  let slot : Slot := if 0x10FFFF < reached.point then ⟨beyond.toNat, reached.place⟩ else reached
  ⟨i.text.take slot.place ++ g :: i.text.drop slot.place, slot.behind,
    adapt delta (count + 1) isFirst⟩

/-- The text after all insertions that digits tell, and whether all digits could be read. -/
def insertAll (i : Insertion) (isFirst : Bool) (ds : List Char) : List Glyph × Bool :=
  if ds.isEmpty then (i.text, true)
  else
    match _h : number? i.bias base 1 0 ds with
    | none => (i.text, false)
    | some (delta, rest) => insertAll (i.insert delta isFirst) false rest
termination_by ds.length
decreasing_by exact length_of_number? _h

/-- The text of ASCII characters and digits, and whether all digits could be read. -/
def decode (basic : List Glyph) (ds : List Char) : List Glyph × Bool :=
  insertAll ⟨basic, Slot.first, firstBias⟩ true ds

end Restyle.Text.Punycode
