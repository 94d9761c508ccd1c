/-!
# Wildcards

A wildcard pattern for one name: `*` stands for any run of characters, `?` for any one character,
and a bracket class for one of a set. In a class, `!` in front negates, `]` in front is a member, a
hyphen between two characters makes a range, and a bracket that is never closed is a plain
character.

A range whose ends are in the wrong order is empty, and what stands around it moves together. Only
then is it decided whether the class is negated, so an exclamation mark that comes to the front in
this way negates as well.

What a pattern means is said by `matchesParts`; `isMatch` decides it in time that grows with the
product of the lengths (`isMatch_eq`).
-/

namespace Restyle.Wildcard

/-- All characters from a least one to a greatest one. -/
structure Range where
  low : Char
  high : Char
  deriving DecidableEq, Repr

/-- A set of characters, given by ranges or by the ranges that it leaves out. -/
structure CharClass where
  negated : Bool
  ranges : List Range
  deriving DecidableEq, Repr

/-- Whether a character belongs to a class. -/
def CharClass.contains (k : CharClass) (c : Char) : Bool :=
  (k.ranges.any fun r => r.low ≤ c && c ≤ r.high) != k.negated

/-- A part of a pattern. -/
inductive Part
  | anyRun
  | anyOne
  | char (c : Char)
  | oneOf (k : CharClass)
  deriving DecidableEq, Repr

/-! ### Bracket classes -/

/-- The number of characters in front that cannot close a class: an exclamation mark, and a bracket
right after it or at the very front. -/
def memberCount (text : List Char) : Nat :=
  let bang := if text.head? == some '!' then 1 else 0
  if text[bang]? == some ']' then bang + 1 else bang

/-- The text of a class up to its closing bracket, and what follows the bracket. -/
def bracket? (text : List Char) : Option (List Char × List Char) :=
  let members := text.drop (memberCount text)
  match members.dropWhile (· != ']') with
  | [] => none
  | _ :: rest => some (text.take (memberCount text) ++ members.takeWhile (· != ']'), rest)

theorem length_of_bracket? {text body rest : List Char} (h : bracket? text = some (body, rest)) :
    rest.length < text.length := by
  simp only [bracket?] at h
  split at h
  · cases h
  · rename_i c tail eq
    simp only [Option.some.injEq, Prod.mk.injEq] at h
    have hs := (List.dropWhile_sublist (l := text.drop (memberCount text)) (· != ']')).length_le
    rw [eq, h.2, List.length_cons, List.length_drop] at hs
    omega

/-- The position of the first hyphen that has at least `skip` characters before it. -/
def hyphenAfter? (skip : Nat) (text : List Char) : Option Nat :=
  ((text.drop skip).findIdx? (· == '-')).map (· + skip)

theorem hyphenAfter?_lt {skip k : Nat} {text : List Char} (h : hyphenAfter? skip text = some k) :
    k < text.length := by
  simp only [hyphenAfter?, Option.map_eq_some_iff] at h
  obtain ⟨i, hi, rfl⟩ := h
  have := (List.findIdx?_eq_some_iff_findIdx_eq.1 hi).1
  rw [List.length_drop] at this
  omega

/-- The texts between the hyphens that make ranges. After such a hyphen at least two characters
pass before the next one. -/
def chunks (skip : Nat) (text : List Char) : List (List Char) :=
  match h : hyphenAfter? skip text with
  | none => [text]
  | some k => text.take k :: chunks 2 (text.drop (k + 1))
termination_by text.length
decreasing_by
  have := hyphenAfter?_lt h
  rw [List.length_drop]
  omega

/-- A hyphen at the end of a class is a plain member. -/
def closeChunks : List (List Char) → List (List Char)
  | [chunk, []] => [chunk ++ ['-']]
  | chunk :: rest => chunk :: closeChunks rest
  | [] => []

/-- Chunks without the ranges whose ends are in the wrong order. -/
def dropEmptyRanges : List (List Char) → List (List Char)
  | [] => []
  | chunk :: rest =>
    match dropEmptyRanges rest with
    | [] => [chunk]
    | next :: others =>
      match chunk.getLast?, next.head? with
      | some low, some high =>
        if high < low then (chunk.dropLast ++ next.tail) :: others else chunk :: next :: others
      | _, _ => chunk :: next :: others

/-- A symbol inside a class: a member, or the hyphen of a range. -/
inductive Symbol
  | member (c : Char)
  | hyphen
  deriving DecidableEq, Repr

/-- The symbols of chunks, with a hyphen between each two of them. -/
def symbols (parts : List (List Char)) : List Symbol :=
  [Symbol.hyphen].intercalate (parts.map (List.map Symbol.member))

/-- The ranges that symbols stand for. A hyphen without a member before it is a member. -/
def rangesOf : List Symbol → List Range
  | .member low :: .hyphen :: .member high :: rest => ⟨low, high⟩ :: rangesOf rest
  | .member c :: rest => ⟨c, c⟩ :: rangesOf rest
  | .hyphen :: rest => ⟨'-', '-'⟩ :: rangesOf rest
  | [] => []

/-- The class of the text between two brackets. -/
def CharClass.ofText (body : List Char) : CharClass :=
  let skip := if body.head? == some '!' then 2 else 1
  match symbols (dropEmptyRanges (closeChunks (chunks skip body))) with
  | .member '!' :: rest => ⟨true, rangesOf rest⟩
  | all => ⟨false, rangesOf all⟩

/-! ### Patterns -/

/-- The parts of a pattern. A run of stars is one part. -/
def parse : List Char → List Part
  | [] => []
  | '*' :: rest =>
    match parse rest with
    | .anyRun :: parts => .anyRun :: parts
    | parts => .anyRun :: parts
  | '?' :: rest => .anyOne :: parse rest
  | '[' :: rest =>
    match _h : bracket? rest with
    | some (body, after) => .oneOf (CharClass.ofText body) :: parse after
    | none => .char '[' :: parse rest
  | c :: rest => .char c :: parse rest
termination_by text => text.length
decreasing_by
  · exact Nat.lt_succ_self _
  · exact Nat.lt_succ_self _
  · exact Nat.lt_succ_of_lt (length_of_bracket? _h)
  · exact Nat.lt_succ_self _
  · exact Nat.lt_succ_self _

/-- Whether a text has an end that passes a test. -/
def hasEnd (test : List Char → Bool) : List Char → Bool
  | [] => test []
  | c :: rest => test (c :: rest) || hasEnd test rest

/-- Whether a text has the form of a pattern. -/
def matchesParts : List Part → List Char → Bool
  | [], text => text.isEmpty
  | .anyRun :: parts, text => hasEnd (matchesParts parts) text
  | .anyOne :: parts, _ :: rest => matchesParts parts rest
  | .char c :: parts, d :: rest => c == d && matchesParts parts rest
  | .oneOf k :: parts, d :: rest => k.contains d && matchesParts parts rest
  | _ :: _, [] => false

/-! ### Matching by rows

Trying all ends of a text for every star takes too long when there are many stars. A row holds, for
each end of the text, whether it has the form of the parts at hand, so each part is looked at once
for each end.
-/

/-- The ends of a text, the longest first. -/
def ends : List Char → List (List Char)
  | [] => [[]]
  | c :: rest => (c :: rest) :: ends rest

/-- The row of no parts: only the empty end has their form. -/
def emptyRow : List Char → List Bool
  | [] => [true]
  | _ :: rest => false :: emptyRow rest

/-- The row of a star before the parts of a row. -/
def runRow : List Bool → List Bool
  | [] => []
  | b :: rest =>
    let after := runRow rest
    (b || after.headD false) :: after

/-- The row of one character that passes a test before the parts of a row. -/
def stepRow (test : Char → Bool) : List Char → List Bool → List Bool
  | [], _ => [false]
  | c :: rest, row => (test c && row.tail.headD false) :: stepRow test rest row.tail

/-- The row of the parts of a pattern. -/
def matchRow (parts : List Part) (text : List Char) : List Bool :=
  match parts with
  | [] => emptyRow text
  | .anyRun :: parts => runRow (matchRow parts text)
  | .anyOne :: parts => stepRow (fun _ => true) text (matchRow parts text)
  | .char c :: parts => stepRow (c == ·) text (matchRow parts text)
  | .oneOf k :: parts => stepRow k.contains text (matchRow parts text)

/-- Whether a name has the form of a pattern. -/
def isMatch (pattern name : String) : Bool :=
  (matchRow (parse pattern.toList) name.toList).headD false

theorem emptyRow_eq (text : List Char) : emptyRow text = (ends text).map (matchesParts []) := by
  induction text with
  | nil => rfl
  | cons c rest ih => simp [emptyRow, ends, ih, matchesParts]

theorem headD_map_ends (test : List Char → Bool) (text : List Char) :
    ((ends text).map test).headD false = test text := by
  cases text <;> rfl

theorem runRow_map_ends (test : List Char → Bool) (text : List Char) :
    runRow ((ends text).map test) = (ends text).map (hasEnd test) := by
  induction text with
  | nil => simp [ends, runRow, hasEnd]
  | cons c rest ih =>
    simp only [ends, List.map_cons, runRow, ih, headD_map_ends, hasEnd]

theorem stepRow_map_ends (test : Char → Bool) (after : List Char → Bool) (text : List Char) :
    stepRow test text ((ends text).map after) =
      (ends text).map fun
        | [] => false
        | c :: rest => test c && after rest := by
  induction text with
  | nil => rfl
  | cons c rest ih =>
    simp only [ends, List.map_cons, stepRow, List.tail_cons, headD_map_ends, ih]

/-- A row tells of each end whether it has the form of the pattern. -/
theorem matchRow_eq (parts : List Part) (text : List Char) :
    matchRow parts text = (ends text).map (matchesParts parts) := by
  induction parts with
  | nil => exact emptyRow_eq text
  | cons part parts ih =>
    cases part <;> simp only [matchRow, ih, runRow_map_ends, stepRow_map_ends] <;>
      apply List.map_congr_left <;> intro t _ <;> cases t <;> rfl

/-- Matching by rows finds the names that have the form of the pattern. -/
theorem isMatch_eq (pattern name : String) :
    isMatch pattern name = matchesParts (parse pattern.toList) name.toList := by
  rw [isMatch, matchRow_eq, headD_map_ends]

/-- Whether a character makes a text a pattern. -/
def isMagicChar (c : Char) : Bool :=
  c == '*' || c == '?' || c == '['

/-- Whether a text holds a wildcard. -/
def isMagic (s : String) : Bool :=
  s.toList.any isMagicChar

/-- Whether a name is hidden. -/
def isHidden (name : String) : Bool :=
  name.toList.head? == some '.'

end Restyle.Wildcard
