import Restyle.Text.Lines

/-!
# Text on a terminal

What is printed holds no control sequences, such as those for colours: an escape character and a
bracket, then parameters from U+0030 to U+003F, marks from U+0020 to U+002F, and an end from U+0040
to U+007E. Text that is read to be printed has newlines alone at its line ends.
-/

namespace Restyle.Text

/-- Whether a character can be a parameter of a control sequence. -/
def isSequenceParameter (c : Char) : Bool :=
  '0' ≤ c && c ≤ '?'

/-- Whether a character can stand between the parameters of a control sequence and its end. -/
def isSequenceMark (c : Char) : Bool :=
  ' ' ≤ c && c ≤ '/'

/-- Whether a character can end a control sequence. -/
def isSequenceEnd (c : Char) : Bool :=
  '@' ≤ c && c ≤ '~'

/-- What follows the control sequence at the front. -/
def afterSequence? : List Char → Option (List Char)
  | '\x1b' :: '[' :: rest =>
    match (rest.dropWhile isSequenceParameter).dropWhile isSequenceMark with
    | c :: more => if isSequenceEnd c then some more else none
    | [] => none
  | _ => none

theorem length_of_afterSequence? {cs rest : List Char} (h : afterSequence? cs = some rest) :
    rest.length < cs.length := by
  unfold afterSequence? at h
  split at h
  · rename_i tail
    split at h
    · rename_i c more eq
      split at h
      · have hs := ((List.dropWhile_sublist isSequenceMark).trans
          (List.dropWhile_sublist isSequenceParameter (l := tail))).length_le
        rw [eq, List.length_cons] at hs
        simp only [Option.some.injEq] at h
        rw [← h, List.length_cons, List.length_cons]
        omega
      · cases h
    · cases h
  · cases h

/-- Characters without the control sequences among them. -/
def dropSequences (cs : List Char) : List Char :=
  match _h : afterSequence? cs with
  | some rest => dropSequences rest
  | none =>
    match cs with
    | [] => []
    | c :: rest => c :: dropSequences rest
termination_by cs.length
decreasing_by
  · exact length_of_afterSequence? _h
  · simp

/-- A text without control sequences. -/
def withoutSequences (s : String) : String :=
  String.ofList (dropSequences s.toList)

/-- Characters where every line ends in a newline alone, also one that ends in a carriage return. -/
def toNewlines : List Char → List Char
  | '\r' :: '\n' :: rest => '\n' :: toNewlines rest
  | '\r' :: rest => '\n' :: toNewlines rest
  | c :: rest => c :: toNewlines rest
  | [] => []

end Restyle.Text
