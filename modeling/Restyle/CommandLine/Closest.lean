/-!
# Names that are meant

When an unknown name is given, the known names closest to it are suggested. The likeness of two
texts is twice the number of letters that they share over the number of all their letters; shared
letters are counted by taking the longest common run, and then those to its left and to its right.
-/

namespace Restyle.CommandLine

/-- A run of letters that two texts have in common: where it begins in each, and its length. -/
structure CommonRun where
  left : Nat
  right : Nat
  size : Nat
  deriving DecidableEq, Repr

/-- The length of the common beginning of two texts. -/
def commonStart : List Char → List Char → Nat
  | a :: as, b :: bs => if a = b then commonStart as bs + 1 else 0
  | _, _ => 0

/-- The longer of two runs, the first one if they are equally long. -/
def CommonRun.longer (r s : CommonRun) : CommonRun :=
  if r.size < s.size then s else r

/-- The longest common run, of several the one that begins first on the left, then on the right. -/
def longestRun (a b : List Char) : CommonRun :=
  (List.range a.length).foldl
    (fun best i =>
      (List.range b.length).foldl
        (fun best j => best.longer ⟨i, j, commonStart (a.drop i) (b.drop j)⟩) best)
    ⟨0, 0, 0⟩

/-- The number of letters that two texts share, found in so many steps at most. -/
def sharedWithin : Nat → List Char → List Char → Nat
  | 0, _, _ => 0
  | steps + 1, a, b =>
    let run := longestRun a b
    if run.size = 0 then 0
    else
      run.size + sharedWithin steps (a.take run.left) (b.take run.right) +
        sharedWithin steps (a.drop (run.left + run.size)) (b.drop (run.right + run.size))

/-- The number of letters that two texts share. -/
def shared (a b : List Char) : Nat :=
  sharedWithin (a.length + 1) a b

/-- Whether a known name is close to a given one: a likeness of three fifths or more. -/
def isClose (known given : String) : Bool :=
  3 * (known.length + given.length) ≤ 10 * shared known.toList given.toList

/-- Whether one known name is closer to a given one than another; of two equally close ones, the
greater text goes first. -/
def isCloser (given a b : String) : Bool :=
  let likenessA := shared a.toList given.toList * (b.length + given.length)
  let likenessB := shared b.toList given.toList * (a.length + given.length)
  likenessB < likenessA || (likenessB == likenessA && b ≤ a)

/-- The number of names that are suggested at most. -/
def suggestionLimit : Nat := 3

/-- The known names that are close to a given one, in ascending order. -/
def closest (known : List String) (given : String) : List String :=
  let close := (known.filter fun k => isClose k given).mergeSort (isCloser given)
  (close.take suggestionLimit).mergeSort fun a b => a ≤ b

end Restyle.CommandLine
