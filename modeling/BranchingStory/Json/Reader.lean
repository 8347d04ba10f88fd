import BranchingStory.Json.Basic

/-!
# Reading JSON

The reader accepts the grammar of RFC 8259 and nothing else: four blank characters, no byte order
mark, no trailing commas, and nothing after the document.  Each nested call has used up a character
of the text, so the length of the text bounds the depth of the recursion.
-/

namespace BranchingStory.Json

def isBlank (character : Char) : Bool :=
  character = ' ' || character = '\t' || character = '\n' || character = '\r'

def skipBlanks (text : List Char) : List Char := text.dropWhile isBlank

/-! ## Strings -/

def hexValue? (character : Char) : Option Nat :=
  if '0' ≤ character ∧ character ≤ '9' then some (character.toNat - '0'.toNat)
  else if 'a' ≤ character ∧ character ≤ 'f' then some (character.toNat - 'a'.toNat + 10)
  else if 'A' ≤ character ∧ character ≤ 'F' then some (character.toNat - 'A'.toNat + 10)
  else none

/-- The value of four hexadecimal digits. -/
def hexUnit? (first second third fourth : Char) : Option Nat := do
  let first ← hexValue? first
  let second ← hexValue? second
  let third ← hexValue? third
  let fourth ← hexValue? fourth
  return ((first * 16 + second) * 16 + third) * 16 + fourth

/-- The character that a letter after a backslash stands for. -/
def escaped? : Char → Option Char
  | '"' => some '"'
  | '\\' => some '\\'
  | '/' => some '/'
  | 'b' => some '\x08'
  | 'f' => some '\x0c'
  | 'n' => some '\n'
  | 'r' => some '\r'
  | 't' => some '\t'
  | _ => none

/-- The code units of a string up to its closing quote: a character gives its code point, and an
escape by number gives that number. -/
def readUnits : List Char → Option (List Nat × List Char)
  | [] => none
  | '"' :: rest => some ([], rest)
  | '\\' :: 'u' :: first :: second :: third :: fourth :: rest => do
      let unit ← hexUnit? first second third fourth
      let (units, rest) ← readUnits rest
      return (unit :: units, rest)
  | '\\' :: letter :: rest => do
      let character ← escaped? letter
      let (units, rest) ← readUnits rest
      return (character.toNat :: units, rest)
  | character :: rest =>
      if character.toNat < 0x20 || character = '\\' then none
      else do
        let (units, rest) ← readUnits rest
        return (character.toNat :: units, rest)

def isHighSurrogate (unit : Nat) : Bool := 0xD800 ≤ unit && unit < 0xDC00

def isLowSurrogate (unit : Nat) : Bool := 0xDC00 ≤ unit && unit < 0xE000

/-- The characters of code units; surrogates must come in pairs. -/
def charactersOf? : List Nat → Option (List Char)
  | [] => some []
  | high :: low :: rest =>
      if isHighSurrogate high && isLowSurrogate low then
        (charactersOf? rest).map
          (Char.ofNat (0x10000 + (high - 0xD800) * 0x400 + (low - 0xDC00)) :: ·)
      else if isHighSurrogate high || isLowSurrogate high then none
      else (charactersOf? (low :: rest)).map (Char.ofNat high :: ·)
  | [unit] =>
      if isHighSurrogate unit || isLowSurrogate unit then none else some [Char.ofNat unit]

/-- The text of a string up to its closing quote, or nothing for text without characters. -/
def readString (text : List Char) : Option (Option String × List Char) := do
  let (units, rest) ← readUnits text
  return ((charactersOf? units).map String.ofList, rest)

/-! ## Numbers -/

/-- At least one digit. -/
def readDigits (text : List Char) : Option (List Char × List Char) :=
  let row := text.takeWhile Decimal.isDigit
  if row.isEmpty then none else some (row, text.dropWhile Decimal.isDigit)

/-- The digits before the point: a zero alone, or digits that do not begin with one. -/
def readWhole (text : List Char) : Option (List Char × List Char) :=
  match text with
  | '0' :: rest => some (['0'], rest)
  | _ => readDigits text

def readFraction (text : List Char) : Option (Option (List Char) × List Char) :=
  match text with
  | '.' :: rest => do
      let (row, rest) ← readDigits rest
      return (some row, rest)
  | _ => some (none, text)

def readPower (text : List Char) : Option (Int × List Char) :=
  match text with
  | '-' :: rest => do
      let (row, rest) ← readDigits rest
      return (-(Decimal.valueOfDigits row : Int), rest)
  | '+' :: rest => do
      let (row, rest) ← readDigits rest
      return ((Decimal.valueOfDigits row : Int), rest)
  | _ => do
      let (row, rest) ← readDigits text
      return ((Decimal.valueOfDigits row : Int), rest)

def readExponent (text : List Char) : Option (Option Int × List Char) :=
  match text with
  | 'e' :: rest | 'E' :: rest => do
      let (power, rest) ← readPower rest
      return (some power, rest)
  | _ => some (none, text)

/-- The value of a written number.  A minus before a lone zero is kept by taking it as a numeral
with a fraction. -/
def ofParts (negative : Bool) (whole : List Char) (fraction : Option (List Char))
    (power : Option Int) : Json :=
  let value := Decimal.valueOfDigits whole
  if fraction.isNone && power.isNone && !(negative && value = 0) then
    integer (if negative then -(value : Int) else value)
  else decimal (Decimal.ofDigits negative whole (fraction.getD []) (power.getD 0)).normalize

def readNumber (negative : Bool) (text : List Char) : Option (Json × List Char) := do
  let (whole, rest) ← readWhole text
  let (fraction, rest) ← readFraction rest
  let (power, rest) ← readExponent rest
  return (ofParts negative whole fraction power, rest)

/-! ## Values -/

/-- An object from its members; a key without characters makes it unreadable. -/
def ofReadMembers (members : List (Option String × Json)) : Json :=
  match members.mapM fun (key, value) => key.map fun key => (key, value) with
  | some members => object members
  | none => unreadable

mutual

/-- One value at the start of the text. -/
def readValue : Nat → List Char → Option (Json × List Char)
  | 0, _ => none
  | fuel + 1, text =>
      match text with
      | 'n' :: 'u' :: 'l' :: 'l' :: rest => some (null, rest)
      | 't' :: 'r' :: 'u' :: 'e' :: rest => some (boolean true, rest)
      | 'f' :: 'a' :: 'l' :: 's' :: 'e' :: rest => some (boolean false, rest)
      | '"' :: rest => do
          let (text, rest) ← readString rest
          return (text.elim unreadable string, rest)
      | '[' :: rest =>
          match skipBlanks rest with
          | ']' :: rest => some (array [], rest)
          | rest => do
              let (items, rest) ← readItems fuel rest
              return (array items, rest)
      | '\x7b' :: rest =>
          match skipBlanks rest with
          | '\x7d' :: rest => some (object [], rest)
          | rest => do
              let (members, rest) ← readMembers fuel rest
              return (ofReadMembers members, rest)
      | '-' :: rest => readNumber true rest
      | _ => readNumber false text

/-- The elements of an array up to its closing bracket, the first one at the start of the text. -/
def readItems : Nat → List Char → Option (List Json × List Char)
  | 0, _ => none
  | fuel + 1, text => do
      let (item, rest) ← readValue fuel text
      match skipBlanks rest with
      | ']' :: rest => return ([item], rest)
      | ',' :: rest =>
          let (items, rest) ← readItems fuel (skipBlanks rest)
          return (item :: items, rest)
      | _ => none

/-- The members of an object up to its closing brace, the first one at the start of the text. -/
def readMembers : Nat → List Char → Option (List (Option String × Json) × List Char)
  | 0, _ => none
  | fuel + 1, text =>
      match text with
      | '"' :: rest => do
          let (key, rest) ← readString rest
          match skipBlanks rest with
          | ':' :: rest =>
              let (value, rest) ← readValue fuel (skipBlanks rest)
              match skipBlanks rest with
              | '\x7d' :: rest => return ([(key, value)], rest)
              | ',' :: rest =>
                  let (members, rest) ← readMembers fuel (skipBlanks rest)
                  return ((key, value) :: members, rest)
              | _ => none
          | _ => none
      | _ => none

end

/-- The value of a whole document. -/
def parse? (document : String) : Option Json := do
  let text := document.toList
  let (json, rest) ← readValue (text.length + 1) (skipBlanks text)
  if (skipBlanks rest).isEmpty then some json else none

end BranchingStory.Json
