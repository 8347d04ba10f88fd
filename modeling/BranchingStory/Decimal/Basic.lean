import BranchingStory.Binary64.Basic

/-!
# Decimal numerals

A decimal numeral is a sign, a coefficient and a power of ten, which is what every written number
means.  Reading one as a double rounds its exact value once; numerals far outside the range of
doubles are settled by the position of their first digit, without forming the power.
-/

namespace BranchingStory

/-- The number `± coefficient * 10 ^ exponent`. -/
structure Decimal where
  negative : Bool
  coefficient : Nat
  exponent : Int
deriving DecidableEq

namespace Decimal

/-- The decimal digits of a natural number, most significant first. -/
def digits (value : Nat) : List Char := Nat.toDigits 10 value

def digitCount (value : Nat) : Nat := (digits value).length

def isDigit (character : Char) : Bool := '0' ≤ character && character ≤ '9'

def digitValue (character : Char) : Nat := character.toNat - '0'.toNat

/-- The natural number that a row of digits denotes. -/
def valueOfDigits (row : List Char) : Nat :=
  row.foldl (fun value character => 10 * value + digitValue character) 0

/-- Moves the factors ten of a coefficient into the exponent, at most `limit` of them. -/
def stripZeros : Nat → Nat → Int → Nat × Int
  | 0, coefficient, exponent => (coefficient, exponent)
  | limit + 1, coefficient, exponent =>
      if coefficient % 10 = 0 then stripZeros limit (coefficient / 10) (exponent + 1)
      else (coefficient, exponent)

/-- The numeral of the same value whose coefficient ends in no zero; zero has exponent zero. -/
def normalize (numeral : Decimal) : Decimal :=
  if numeral.coefficient = 0 then { numeral with exponent := 0 }
  else
    let (coefficient, exponent) :=
      stripZeros (digitCount numeral.coefficient) numeral.coefficient numeral.exponent
    { numeral with coefficient, exponent }

/-- A numeral from the digits before and after its point and a written power of ten. -/
def ofDigits (negative : Bool) (whole fraction : List Char) (exponent : Int) : Decimal :=
  { negative, coefficient := valueOfDigits (whole ++ fraction),
    exponent := exponent - fraction.length }

end Decimal

namespace Binary64

/-- The double nearest to `± coefficient * 10 ^ exponent`, by exact arithmetic. -/
def scaled (negative : Bool) (coefficient : Nat) (exponent : Int) : Binary64 :=
  if exponent < 0 then
    rounded negative (coefficient * unitsPerOne) (Nat.pow 10 (-exponent).toNat)
  else rounded negative (coefficient * Nat.pow 10 exponent.toNat * unitsPerOne) 1

/-- The double nearest to a numeral, infinite when the numeral is too large. -/
def ofDecimal (numeral : Decimal) : Binary64 :=
  let position := numeral.exponent + Decimal.digitCount numeral.coefficient
  if numeral.coefficient = 0 ∨ position < -330 then rounded numeral.negative 0 1
  else if 310 < position then infinite numeral.negative
  else scaled numeral.negative numeral.coefficient numeral.exponent

end Binary64

end BranchingStory
