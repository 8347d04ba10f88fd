import BranchingStory.Decimal.Shortest

/-!
# Written numerals

A layout fixes what the value of a numeral leaves open: which magnitudes are written without a
power of ten, whether a whole number shows a fraction, and how a positive exponent is marked.
-/

namespace BranchingStory

/-- The decisions that turn a numeral into text. -/
structure Layout where
  tie : Decimal.Tie
  /-- Whether a numeral whose first digit has this power of ten is written without exponent. -/
  positional : Int → Bool
  /-- What follows the digits of a whole number written without exponent. -/
  wholeEnding : List Char
  /-- What stands between the letter of the exponent and a positive exponent. -/
  plus : List Char

namespace Layout

/-- The digits of a numeral with the point in its place. -/
def positionalText (layout : Layout) (coefficient : Nat) (exponent : Int) : List Char :=
  let row := Decimal.digits coefficient
  if 0 ≤ exponent then row ++ List.replicate exponent.toNat '0' ++ layout.wholeEnding
  else
    let places := (-exponent).toNat
    if places < row.length then
      row.take (row.length - places) ++ '.' :: row.drop (row.length - places)
    else '0' :: '.' :: (List.replicate (places - row.length) '0' ++ row)

/-- One digit before the point and a power of ten. -/
def scientificText (layout : Layout) (coefficient : Nat) (leading : Int) : List Char :=
  let significand :=
    match Decimal.digits coefficient with
    | first :: second :: rest => first :: '.' :: second :: rest
    | row => row
  let power :=
    if leading < 0 then '-' :: Decimal.digits leading.natAbs
    else layout.plus ++ Decimal.digits leading.natAbs
  significand ++ 'e' :: power

/-- The text of a numeral. -/
def text (layout : Layout) (numeral : Decimal) : List Char :=
  let leading := numeral.exponent + Decimal.digitCount numeral.coefficient - 1
  let unsigned :=
    if layout.positional leading then
      layout.positionalText numeral.coefficient numeral.exponent
    else layout.scientificText numeral.coefficient leading
  if numeral.negative then '-' :: unsigned else unsigned

/-- Numbers as players see them: never an exponent, and no fraction for whole numbers. -/
def plain : Layout where
  tie := .up
  positional := fun _ => true
  wholeEnding := []
  plus := []

/-- Numbers in documents: a whole number keeps `.0`, and numbers from `10 ^ 16` or below
`10 ^ (-5)` have an exponent. -/
def document : Layout where
  tie := .even
  positional := fun leading => -5 ≤ leading && leading ≤ 15
  wholeEnding := ['.', '0']
  plus := ['+']

end Layout

/-- The text of a double as players see it. -/
def Binary64.display : Binary64 → String
  | .nan => "NaN"
  | .infinite negative => if negative then "-inf" else "inf"
  | .finite negative magnitude _ =>
      String.ofList (Layout.plain.text (Decimal.shortest Layout.plain.tie negative magnitude))

/-- The text of a change: a value that is not negative shows a plus sign. -/
def Binary64.displaySigned (value : Binary64) : String :=
  match value with
  | .nan => value.display
  | .infinite negative | .finite negative _ _ =>
      if negative then value.display else "+" ++ value.display

end BranchingStory
