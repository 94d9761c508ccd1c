import Restyle.Number.Binary64

/-!
# Shortest decimal text

A finite number is written with the fewest digits that read back as it: for one digit, two digits
and so on, the two neighbours of the value on that decimal grid are tried, and the first grid with
a hit wins. Of two hits the nearer one is taken, an exact tie goes to the even digit.

Positional notation is used from `10 ^ -4` up to below `10 ^ 16`, with at least one digit after
the point; elsewhere an exponent of at least two digits follows the digits.
-/

namespace Restyle.Number

/-- Digits and scale: the number `digits * 10 ^ scale`. -/
structure Decimal where
  digits : Nat
  scale : Int
  deriving DecidableEq, Repr

/-- The number of decimal digits of a natural number. -/
def digitCount (n : Nat) : Nat :=
  (Nat.repr n).length

/-- The least `j ≤ bound` with `den ≤ num * 10 ^ j`. -/
def leadingZeros (num den : Nat) : Nat → Nat
  | 0 => 0
  | bound + 1 => if den ≤ num then 0 else leadingZeros (num * 10) den bound + 1

/-- The `p` with `10 ^ p ≤ num / den < 10 ^ (p + 1)`. -/
def floorLog10 (num den : Nat) : Int :=
  if den ≤ num then (digitCount (num / den) : Int) - 1
  else -(leadingZeros num den 400 : Int)

/-- Numerator and denominator of `num / den / 10 ^ e`. -/
def scaleDownDecimal (num den : Nat) : Int → Nat × Nat
  | .ofNat k => (num, den * Nat.pow 10 k)
  | .negSucc k => (num * Nat.pow 10 (k + 1), den)

/-- The decimal of the grid `10 ^ scale` that reads back as the number and is nearest to it. -/
def onGrid? (mantissa : Nat) (exponent : Int) (num den : Nat) (scale : Int) : Option Decimal :=
  let (n, d) := scaleDownDecimal num den scale
  let below := n / d
  let hits (digits : Nat) : Bool :=
    Binary64.ofDecimal false digits scale == .finite false mantissa exponent
  match hits below, hits (below + 1) with
  | true, true => some ⟨roundDiv n d, scale⟩
  | true, false => some ⟨below, scale⟩
  | false, true => some ⟨below + 1, scale⟩
  | false, false => none

/-- The first grid with a hit, from `count` digits on, with `left` grids to try. -/
def searchGrids (mantissa : Nat) (exponent : Int) (num den : Nat) (top : Int) :
    Nat → Nat → Decimal
  | _, 0 => ⟨num / den, 0⟩
  | count, left + 1 =>
    match onGrid? mantissa exponent num den (top - count + 1) with
    | some decimal => decimal
    | none => searchGrids mantissa exponent num den top (count + 1) left

/-- The shortest decimal that reads back as the positive number `mantissa * 2 ^ exponent`. -/
def shortest (mantissa : Nat) (exponent : Int) : Decimal :=
  let (num, den) := scaleDown mantissa 1 (-exponent)
  searchGrids mantissa exponent num den (floorLog10 num den) 1 17

/-- Digits without the zeros at their end, and the place of the point from their front. -/
def normalized (decimal : Decimal) : List Char × Int :=
  let digits := (Nat.repr decimal.digits).toList
  ((digits.reverse.dropWhile (· == '0')).reverse, digits.length + decimal.scale)

/-- Positive digits with the point after the first `point` of them. -/
def positional (digits : List Char) (point : Int) : List Char :=
  if point ≤ 0 then '0' :: '.' :: (List.replicate (-point).toNat '0' ++ digits)
  else
    let whole := digits.take point.toNat
    let rest := digits.drop point.toNat
    whole ++ List.replicate (point.toNat - digits.length) '0' ++ '.' ::
      (if rest.isEmpty then ['0'] else rest)

/-- Positive digits with one of them before the point and an exponent. -/
def scientific (digits : List Char) (point : Int) : List Char :=
  let power := point - 1
  let size := (Nat.repr power.natAbs).toList
  digits.take 1 ++ (if digits.length ≤ 1 then [] else '.' :: digits.drop 1) ++
    'e' :: (if power < 0 then '-' else '+') ::
    (List.replicate (2 - size.length) '0' ++ size)

/-- The text of a number. -/
def Binary64.text : Binary64 → String
  | .nan => "nan"
  | .infinite negative => if negative then "-inf" else "inf"
  | .finite negative mantissa exponent =>
    let body :=
      if mantissa = 0 then ['0', '.', '0']
      else
        let (digits, point) := normalized (shortest mantissa exponent)
        if -4 < point ∧ point ≤ 16 then positional digits point else scientific digits point
    String.ofList (if negative then '-' :: body else body)

end Restyle.Number
