import BranchingStory.Decimal.Basic

/-!
# The shortest numeral of a double

The numeral of a finite double has the fewest digits that read back to it; of two such numerals the
nearer one is taken.  For a growing number of digits the two neighbours of the exact value on that
decimal grid are read back: the first grid with a hit wins.
-/

namespace BranchingStory

namespace Decimal

/-- Which numeral is taken when two of them are equally near. -/
inductive Tie where
  | even
  | up
deriving DecidableEq

/-- How often a magnitude below one is multiplied by ten to reach one. -/
def placesBelowOne : Nat → Nat → Nat
  | 0, _ => 0
  | limit + 1, magnitude =>
      if Binary64.unitsPerOne ≤ magnitude then 0 else placesBelowOne limit (10 * magnitude) + 1

/-- The power of ten of the first digit of a positive magnitude. -/
def leadingExponent (magnitude : Nat) : Int :=
  if Binary64.unitsPerOne ≤ magnitude then
    (digitCount (magnitude / Binary64.unitsPerOne) : Int) - 1
  else -(placesBelowOne 330 magnitude : Int)

/-- A magnitude as a quotient that counts steps of `10 ^ exponent`. -/
def steps (magnitude : Nat) (exponent : Int) : Nat × Nat :=
  if exponent < 0 then (magnitude * Nat.pow 10 (-exponent).toNat, Binary64.unitsPerOne)
  else (magnitude, Binary64.unitsPerOne * Nat.pow 10 exponent.toNat)

/-- Whether `coefficient * 10 ^ exponent` reads back to a magnitude. -/
def readsBack (magnitude coefficient : Nat) (exponent : Int) : Bool :=
  match Binary64.scaled false coefficient exponent with
  | .finite _ found _ => found = magnitude
  | _ => false

/-- The numeral on the grid of steps `10 ^ exponent` that reads back to a magnitude, if any. -/
def onGrid (tie : Tie) (magnitude : Nat) (exponent : Int) : Option (Nat × Int) :=
  let (numerator, denominator) := steps magnitude exponent
  let below := numerator / denominator
  let remainder := numerator % denominator
  match readsBack magnitude below exponent, readsBack magnitude (below + 1) exponent with
  | false, false => none
  | true, false => some (below, exponent)
  | false, true => some (below + 1, exponent)
  | true, true =>
      let takesBelow :=
        2 * remainder < denominator ||
          (2 * remainder = denominator && tie = .even && below % 2 = 0)
      some (if takesBelow then below else below + 1, exponent)

/-- The exact coefficient and exponent of a magnitude. -/
def exact (magnitude : Nat) : Nat × Int := (magnitude * Nat.pow 5 1074, -1074)

/-- The shortest coefficient and exponent that read back to a magnitude. -/
def shortestMagnitude (tie : Tie) (magnitude : Nat) : Nat × Int :=
  let top := leadingExponent magnitude
  ((List.range 17).findSome? fun (further : Nat) => onGrid tie magnitude (top - further)).getD
    (exact magnitude)

/-- The shortest numeral of a sign and a magnitude. -/
def shortest (tie : Tie) (negative : Bool) (magnitude : Nat) : Decimal :=
  if magnitude = 0 then { negative, coefficient := 0, exponent := 0 }
  else
    let (coefficient, exponent) := shortestMagnitude tie magnitude
    normalize { negative, coefficient, exponent }

end Decimal

end BranchingStory
