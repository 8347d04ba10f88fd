import BranchingStory.Decimal.Basic

/-!
# RON values

Settings are written in RON, an object notation with named records.  A number keeps its written
form, because only the place where it is wanted decides whether it is a whole number or a double.
-/

namespace BranchingStory

inductive Ron where
  | boolean (value : Bool)
  | number (written : List Char)
  | letter (value : Char)
  | string (value : String)
  /-- An option without a value. -/
  | absent
  /-- An option with a value. -/
  | present (value : Ron)
  /-- A name alone. -/
  | symbol (name : String)
  | tuple (name : Option String) (items : List Ron)
  | record (name : Option String) (fields : List (String × Ron))
  | list (items : List Ron)
  | map (entries : List (Ron × Ron))

namespace Ron

/-! ## Numbers -/

/-- The value of a hexadecimal digit. -/
def hexValue? (character : Char) : Option Nat :=
  if '0' ≤ character ∧ character ≤ '9' then some (character.toNat - '0'.toNat)
  else if 'a' ≤ character ∧ character ≤ 'f' then some (character.toNat - 'a'.toNat + 10)
  else if 'A' ≤ character ∧ character ≤ 'F' then some (character.toNat - 'A'.toNat + 10)
  else none

/-- The value of digits in a base; underscores between and after them are skipped. -/
def digitsValue? (base : Nat) (value : Nat) : List Char → Option Nat
  | [] => some value
  | '_' :: rest => digitsValue? base value rest
  | digit :: rest => do
      let found ← hexValue? digit
      if found < base then digitsValue? base (base * value + found) rest else none

/-- A whole number without sign: decimal digits, or `0x`, `0b` or `0o` and digits of that base. -/
def natural? (written : List Char) : Option Nat :=
  let (base, row) :=
    match written with
    | '0' :: 'x' :: row => (16, row)
    | '0' :: 'b' :: row => (2, row)
    | '0' :: 'o' :: row => (8, row)
    | row => (10, row)
  match row with
  | [] | '_' :: _ => none
  | row => digitsValue? base 0 row

/-- A whole number that may have a sign. -/
def integer? : List Char → Option Int
  | '-' :: row => (natural? row).map fun value => -(value : Int)
  | '+' :: row => (natural? row).map Int.ofNat
  | row => (natural? row).map Int.ofNat

/-- The power of ten after a numeral: nothing, or digits that may have a sign after an `e`. -/
def power? : List Char → Option Int
  | [] => some 0
  | mark :: rest =>
      if mark = 'e' ∨ mark = 'E' then
        let (negative, row) :=
          match rest with
          | '-' :: row => (true, row)
          | '+' :: row => (false, row)
          | row => (false, row)
        if row.isEmpty ∨ !row.all Decimal.isDigit then none
        else
          let value : Int := Decimal.valueOfDigits row
          some (if negative then -value else value)
      else none

/-- The decimal numeral that a text is: digits with a point before, between or after them, and a
power of ten. -/
def numeral? (written : List Char) : Option Decimal := do
  let (negative, row) :=
    match written with
    | '-' :: row => (true, row)
    | '+' :: row => (false, row)
    | row => (false, row)
  let whole := row.takeWhile Decimal.isDigit
  let rest := row.dropWhile Decimal.isDigit
  let (fraction, rest) :=
    match rest with
    | '.' :: rest => (rest.takeWhile Decimal.isDigit, rest.dropWhile Decimal.isDigit)
    | _ => ([], rest)
  guard !(whole.isEmpty && fraction.isEmpty)
  let power ← power? rest
  return (Decimal.ofDigits negative whole fraction power).normalize

/-- The double that a text is; a numeral that is too large is infinite. -/
def doubleOf? (written : List Char) : Option Binary64 :=
  if written = ['N', 'a', 'N'] then some .nan
  else if written = ['i', 'n', 'f'] then some (.infinite false)
  else if written = ['-', 'i', 'n', 'f'] then some (.infinite true)
  else (numeral? written).map Binary64.ofDecimal

/-! ## Reading values -/

def double? : Ron → Option Binary64
  | number written => doubleOf? written
  | _ => none

/-- A whole number below a bound. -/
def below? (bound : Nat) : Ron → Option Nat
  | number written => (natural? written).filter (· < bound)
  | _ => none

def natural32? (value : Ron) : Option UInt32 := (value.below? UInt32.size).map UInt32.ofNat

def natural64? (value : Ron) : Option UInt64 := (value.below? UInt64.size).map UInt64.ofNat

def text? : Ron → Option String
  | string value => some value
  | _ => none

def boolean? : Ron → Option Bool
  | boolean value => some value
  | _ => none

/-- The elements of a list, each read in the same way. -/
def list? {Value : Type} (read : Ron → Option Value) : Ron → Option (List Value)
  | list items => items.mapM read
  | _ => none

/-- An option.  Where options are implicit a value alone is an option with that value. -/
def option? {Value : Type} (implicit : Bool) (read : Ron → Option Value) :
    Ron → Option (Option Value)
  | absent => some none
  | present value => some <$> read value
  | value => if implicit then some <$> read value else none

/-! ## Records -/

/-- The fields of a record that are there. -/
abbrev Fields := List (String × Ron)

/-- Whether no field occurs twice. -/
def distinctNames : Fields → Bool
  | [] => true
  | (name, _) :: rest => (rest.all fun field => field.1 != name) && distinctNames rest

/-- The declared fields of a record, which has no name or the given one. -/
def fields? (expected : String) (declared : List String) (value : Ron) : Option Fields := do
  let (name, fields) ←
    match value with
    | record name fields => some (name, fields)
    | tuple name [] => some (name, [])
    | _ => none
  guard (name.all (· == expected))
  let known := fields.filter fun field => declared.contains field.1
  guard (distinctNames known)
  return known

namespace Fields

variable {Value : Type}

def get? (fields : Fields) (name : String) : Option Ron :=
  (fields.find? fun field => field.1 == name).map Prod.snd

/-- A field that must be there. -/
def required (fields : Fields) (name : String) (read : Ron → Option Value) : Option Value :=
  (fields.get? name).bind read

/-- A field with a value for when it is missing. -/
def withDefault (fields : Fields) (name : String) (default : Value) (read : Ron → Option Value) :
    Option Value :=
  match fields.get? name with
  | some value => read value
  | none => some default

end Fields

end Ron

end BranchingStory
