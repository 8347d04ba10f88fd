import BranchingStory.Decimal.Layout
import BranchingStory.Json.Basic

/-!
# Writing JSON

Values are written without blanks and members in their order.  Only quotes, backslashes and control
characters are escaped.
-/

namespace BranchingStory.Json

def hexDigit (value : Nat) : Char := Nat.digitChar (value % 16)

/-- The written form of one character of a string. -/
def writeCharacter (character : Char) : List Char :=
  if character = '"' then ['\\', '"']
  else if character = '\\' then ['\\', '\\']
  else if character = '\x08' then ['\\', 'b']
  else if character = '\x0c' then ['\\', 'f']
  else if character = '\n' then ['\\', 'n']
  else if character = '\r' then ['\\', 'r']
  else if character = '\t' then ['\\', 't']
  else if character.toNat < 0x20 then
    ['\\', 'u', '0', '0', hexDigit (character.toNat / 16), hexDigit character.toNat]
  else [character]

def writeString (value : String) : List Char :=
  '"' :: value.toList.flatMap writeCharacter ++ ['"']

/-- A whole number: its digits, after a minus when it is negative. -/
def writeInteger (value : Int) : List Char :=
  if value < 0 then '-' :: Decimal.digits value.natAbs else Decimal.digits value.natAbs

mutual

def write : Json → List Char
  | null => ['n', 'u', 'l', 'l']
  | boolean true => ['t', 'r', 'u', 'e']
  | boolean false => ['f', 'a', 'l', 's', 'e']
  | integer value => writeInteger value
  | decimal value => Layout.document.text value
  | string value => writeString value
  | array items => '[' :: writeItems items
  | object members => '\x7b' :: writeMembers members
  | unreadable => ['n', 'u', 'l', 'l']

/-- The elements that are left, with the closing bracket. -/
def writeItems : List Json → List Char
  | [] => [']']
  | [item] => write item ++ [']']
  | item :: next :: rest => write item ++ ',' :: writeItems (next :: rest)

/-- The members that are left, with the closing brace. -/
def writeMembers : List (String × Json) → List Char
  | [] => ['\x7d']
  | [(key, value)] => writeString key ++ ':' :: write value ++ ['\x7d']
  | (key, value) :: next :: rest =>
      writeString key ++ ':' :: write value ++ ',' :: writeMembers (next :: rest)

end

/-- The text of a value. -/
def render (json : Json) : String := String.ofList json.write

end BranchingStory.Json

namespace BranchingStory

/-- A double as a JSON number; one that is not finite is null. -/
def Binary64.toJson : Binary64 → Json
  | .finite negative magnitude _ =>
      .decimal (Decimal.shortest Layout.document.tie negative magnitude)
  | _ => .null

end BranchingStory
