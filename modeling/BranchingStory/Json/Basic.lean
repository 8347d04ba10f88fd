import BranchingStory.Decimal.Basic

/-!
# JSON values

A JSON document is a tree of values.  Numbers keep their written value, whole numbers apart from
numerals with a fraction or an exponent, so that a reader may decide what it accepts.  Text that
escapes half a surrogate pair has no characters; such a value is well formed but cannot be read.
-/

namespace BranchingStory

inductive Json where
  | null
  | boolean (value : Bool)
  | integer (value : Int)
  | decimal (value : Decimal)
  | string (value : String)
  | array (items : List Json)
  | object (members : List (String × Json))
  /-- A value with half a surrogate pair where its text should be: a string, or an object for the
  sake of a key. -/
  | unreadable

namespace Json

/-- An object that leaves out members without a value. -/
def ofMembers (members : List (String × Option Json)) : Json :=
  object (members.filterMap fun (key, value) => value.map fun value => (key, value))

/-- The first member of an object with a key. -/
def get? (key : String) : Json → Option Json
  | object members => (members.find? fun member => member.1 == key).map Prod.snd
  | _ => none

def text? : Json → Option String
  | string value => some value
  | _ => none

def boolean? : Json → Option Bool
  | boolean value => some value
  | _ => none

/-- A whole number below a bound. -/
def below? (bound : Nat) : Json → Option Nat
  | integer value => if 0 ≤ value ∧ value < bound then some value.toNat else none
  | _ => none

def natural32? (json : Json) : Option UInt32 := (json.below? UInt32.size).map UInt32.ofNat

def natural64? (json : Json) : Option UInt64 := (json.below? UInt64.size).map UInt64.ofNat

/-- The double nearest to a number; a number beyond the doubles is refused. -/
def double? (json : Json) : Option Binary64 :=
  let value : Option Binary64 :=
    match json with
    | integer value => some (Binary64.ofInt value)
    | decimal value => some (Binary64.ofDecimal value)
    | _ => none
  value.filter Binary64.isFinite

/-- The elements of an array, each read in the same way. -/
def list? {Value : Type} (read : Json → Option Value) : Json → Option (List Value)
  | array items => items.mapM read
  | _ => none

/-- A value that may be null. -/
def nullable? {Value : Type} (read : Json → Option Value) : Json → Option (Option Value)
  | null => some none
  | json => some <$> read json

/-- The levels of nesting that a value may have which is stored before it is known what it is. -/
def storedLevels : Nat := 128

mutual

/-- Whether a value can be stored before it is known what it is: its text has characters, its
numbers are doubles, and it nests at most the given levels. -/
def isStorable (levels : Nat) : Json → Bool
  | null | boolean _ | string _ => true
  | integer value => (Binary64.ofInt value).isFinite
  | decimal value => (Binary64.ofDecimal value).isFinite
  | array items => decide (2 ≤ levels) && areStorableItems (levels - 1) items
  | object members => decide (2 ≤ levels) && areStorableMembers (levels - 1) members
  | unreadable => false

def areStorableItems (levels : Nat) : List Json → Bool
  | [] => true
  | item :: rest => isStorable levels item && areStorableItems levels rest

def areStorableMembers (levels : Nat) : List (String × Json) → Bool
  | [] => true
  | (_, value) :: rest => isStorable levels value && areStorableMembers levels rest

end

end Json

end BranchingStory
