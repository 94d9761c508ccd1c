import Restyle.Text.Charset.Reading

/-!
# Reading step by step

Octets are read from the front: a step finds characters, or one glyph, or octets that are malformed
together, or an end that is incomplete, and counts as one malformed part. A charset that shifts between
sets of characters has a state that a step may change.
-/

namespace Restyle.Text.Charset

/-- What is found at the front of octets; `more` octets after the first one belong to it. -/
inductive Step
  | chars (cs : List Char) (more : Nat)
  | glyph (g : Glyph) (more : Nat)
  | malformed (more : Nat)
  | incomplete
  deriving DecidableEq, Repr

/-- The reading of octets by steps that depend on a state. -/
def readFrom {σ : Type} (step : σ → UInt8 → Octets → Step × σ) (state : σ) (bytes : Octets) :
    Reading :=
  match bytes with
  | [] => []
  | b :: rest =>
    match step state b rest with
    | (.chars cs more, next) => Reading.ofChars cs ++ readFrom step next (rest.drop more)
    | (.glyph g more, next) => some g :: readFrom step next (rest.drop more)
    | (.malformed more, next) => none :: readFrom step next (rest.drop more)
    | (.incomplete, _) => [none]
termination_by bytes.length
decreasing_by
  all_goals
    rw [List.length_drop, List.length_cons]
    omega

/-- The reading of octets by steps that need no state. -/
def readSteps (step : UInt8 → Octets → Step) (bytes : Octets) : Reading :=
  readFrom (fun (_ : Unit) b rest => (step b rest, ())) () bytes

namespace Step

/-- The characters of the first octets, or one octet that is malformed. -/
def ofChars? (cs : Option (List Char)) (more : Nat) : Step :=
  match cs with
  | some cs => .chars cs more
  | none => .malformed 0

/-- A single character. -/
def one (c : Char) : Step :=
  .chars [c] 0

/-- A character in ASCII. -/
def ascii (b : UInt8) : Step :=
  one (Char.ofNat b.toNat)

/-- What is found at two octets. -/
def atPair (found : UInt8 → UInt8 → Step) (b : UInt8) (rest : Octets) : Step :=
  match rest with
  | [] => .incomplete
  | c :: _ => found b c

/-- The characters of two octets. -/
def pair (chars? : UInt8 → UInt8 → Option (List Char)) : UInt8 → Octets → Step :=
  atPair fun b c => ofChars? (chars? b c) 1

end Step

/-- The code of two octets. -/
def codeOf (b c : UInt8) : Nat :=
  256 * b.toNat + c.toNat

/-- The code of two octets without their highest bits, where both have it. -/
def lowCode? (b c : UInt8) : Option Nat :=
  if 0x80 ≤ b ∧ 0x80 ≤ c then some (codeOf b c - 0x8080) else none

end Restyle.Text.Charset
