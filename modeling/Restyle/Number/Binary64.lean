/-!
# Binary floating-point numbers

The numbers of a 64-bit binary format, as exact data: a finite one is `mantissa * 2 ^ exponent`
with a mantissa below `2 ^ 53` and an exponent of at least `-1074`, and its mantissa is at least
`2 ^ 52` unless the exponent is that least one.

`ofRatio` rounds a quotient to the nearest such number, a tie to the even mantissa; `ofDecimal`
rounds `digits * 10 ^ scale`.
-/

namespace Restyle.Number

/-- A number of the 64-bit binary format. -/
inductive Binary64
  | finite (negative : Bool) (mantissa : Nat) (exponent : Int)
  | infinite (negative : Bool)
  | nan
  deriving DecidableEq, Repr, Inhabited

/-- The quotient rounded to the nearest natural number, a tie to the even one. -/
def roundDiv (num den : Nat) : Nat :=
  let q := num / den
  let twice := 2 * (num % den)
  if twice < den then q
  else if den < twice then q + 1
  else q + q % 2

/-- Numerator and denominator of `num / den / 2 ^ e`. -/
def scaleDown (num den : Nat) : Int → Nat × Nat
  | .ofNat k => (num, den * Nat.pow 2 k)
  | .negSucc k => (num * Nat.pow 2 (k + 1), den)

namespace Binary64

/-- The least exponent of a finite number. -/
def leastExponent : Int := -1074

/-- The greatest exponent of a finite number. -/
def greatestExponent : Int := 971

/-- The largest `k` with `2 ^ k ≤ num / den`, for positive `num` and `den`. -/
def floorLog2 (num den : Nat) : Int :=
  let guess := (num.log2 : Int) - den.log2
  let (n, d) := scaleDown num den guess
  if d ≤ n then guess else guess - 1

/-- A number from its rounded mantissa, where rounding may have reached the next power of two. -/
def ofMantissa (negative : Bool) (mantissa : Nat) (exponent : Int) : Binary64 :=
  let (m, e) := if mantissa = Nat.pow 2 53 then (Nat.pow 2 52, exponent + 1) else (mantissa, exponent)
  if greatestExponent < e then .infinite negative else .finite negative m e

/-- The number nearest to `num / den`, with the given sign. -/
def ofRatio (negative : Bool) (num den : Nat) : Binary64 :=
  if num = 0 then .finite negative 0 leastExponent
  else
    let exponent := max (floorLog2 num den - 52) leastExponent
    let (n, d) := scaleDown num den exponent
    ofMantissa negative (roundDiv n d) exponent

/-- Beyond these decimal magnitudes every number is infinite or zero. -/
def decimalReach : Int := 400

/-- The number nearest to `digits * 10 ^ scale`, with the given sign. -/
def ofDecimal (negative : Bool) (digits : Nat) (scale : Int) : Binary64 :=
  let magnitude := ((Nat.repr digits).length : Int) + scale
  if digits = 0 ∨ magnitude < -decimalReach then .finite negative 0 leastExponent
  else if decimalReach < magnitude then .infinite negative
  else if 0 ≤ scale then ofRatio negative (digits * Nat.pow 10 scale.toNat) 1
  else ofRatio negative digits (Nat.pow 10 (-scale).toNat)

end Binary64

end Restyle.Number
