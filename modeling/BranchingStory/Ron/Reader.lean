import BranchingStory.Ron.Basic

/-!
# Reading RON

A document is one value after the attributes that enable extensions.  Of the extensions only
implicit options change what is read here.  A character of the text accounts for at most three
nested calls, so the length of the text bounds the depth of the recursion; apart from that a
document nests at most `nestingLimit` levels of values.
-/

namespace BranchingStory.Ron

/-! ## Blanks and comments -/

def isBlank (character : Char) : Bool :=
  character = ' ' || character = '\t' || character = '\n' || character = '\r'

/-- The text after a block comment that is open `depth + 1` times. -/
def skipBlock : Nat → List Char → Option (List Char)
  | _, [] => none
  | depth, '/' :: '*' :: rest => skipBlock (depth + 1) rest
  | 0, '*' :: '/' :: rest => some rest
  | depth + 1, '*' :: '/' :: rest => skipBlock depth rest
  | depth, _ :: rest => skipBlock depth rest

/-- The text after blanks and comments; a comment that does not end is refused. -/
def skipBlanksWith : Nat → List Char → Option (List Char)
  | 0, text => some text
  | fuel + 1, text =>
      match text.dropWhile isBlank with
      | '/' :: '/' :: rest => skipBlanksWith fuel (rest.dropWhile (· ≠ '\n'))
      | '/' :: '*' :: rest => do
          let rest ← skipBlock 0 rest
          skipBlanksWith fuel rest
      | '/' :: _ => none
      | rest => some rest

def skipBlanks (text : List Char) : Option (List Char) := skipBlanksWith (text.length + 1) text

/-- The text after a mark and the blanks around it. -/
def skipMark (mark : Char) (text : List Char) : Option (List Char) := do
  match ← skipBlanks text with
  | first :: rest => if first = mark then skipBlanks rest else none
  | [] => none

/-- Whether a comma follows, and the text after it and the blanks around it. -/
def skipComma (text : List Char) : Option (Bool × List Char) := do
  match ← skipBlanks text with
  | ',' :: rest => return (true, ← skipBlanks rest)
  | rest => return (false, rest)

/-! ## Names -/

def isNameStart (character : Char) : Bool := character.isAlpha || character = '_'

def isNameCharacter (character : Char) : Bool := character.isAlphanum || character = '_'

/-- The characters of names that are marked as raw. -/
def isRawCharacter (character : Char) : Bool :=
  isNameCharacter character || character = '.' || character = '+' || character = '-'

def startsName : List Char → Bool
  | [] => false
  | character :: _ => isNameCharacter character

/-- A name, which ends before a character that no name has; `r#` marks a raw name. -/
def readName (text : List Char) : Option (String × List Char) :=
  match text with
  | ['r'] | 'r' :: '"' :: _ => none
  | 'r' :: '#' :: rest =>
      let row := rest.takeWhile isRawCharacter
      if row.isEmpty then none else some (String.ofList row, rest.dropWhile isRawCharacter)
  | first :: _ =>
      let row := text.takeWhile isNameCharacter
      if !isNameStart first || row.length < (text.takeWhile isRawCharacter).length then none
      else some (String.ofList row, text.dropWhile isNameCharacter)
  | [] => none

/-- The text after a word that is not the beginning of a longer one. -/
def skipWord (word : List Char) (text : List Char) : Option (List Char) :=
  let rest := text.drop word.length
  if word.isPrefixOf text && !startsName rest then some rest else none

/-! ## Attributes -/

inductive Extension where
  | implicitOptions
  | other
deriving DecidableEq

def extension? : String → Option Extension
  | "implicit_some" => some .implicitOptions
  | "unwrap_newtypes" | "unwrap_variant_newtypes" => some .other
  | _ => none

/-- The extensions of a list, up to its closing parenthesis. -/
def readExtensions : Nat → List Char → Option (List Extension × List Char)
  | 0, _ => none
  | fuel + 1, text => do
      let (name, rest) ← readName text
      let extension ← extension? name
      let (comma, rest) ← skipComma rest
      if comma && startsName rest then
        let (others, rest) ← readExtensions fuel rest
        return (extension :: others, rest)
      else return ([extension], rest)

/-- The attributes in front of a value: whether options are implicit, and the text of the value. -/
def readAttributes : Nat → List Char → Option (Bool × List Char)
  | 0, _ => none
  | fuel + 1, text =>
      match text with
      | '#' :: rest => do
          let rest ← skipMark '!' rest
          let rest ← skipMark '[' rest
          let rest ← skipBlanks (← skipWord ['e', 'n', 'a', 'b', 'l', 'e'] rest)
          let rest ← skipMark '(' rest
          let (extensions, rest) ← readExtensions fuel rest
          let rest ← skipMark ')' rest
          let rest ← skipMark ']' rest
          let (implicit, rest) ← readAttributes fuel rest
          return (extensions.contains .implicitOptions || implicit, rest)
      | text => some (false, text)

/-! ## Strings -/

/-- The character with a number of one to six hexadecimal digits, up to the closing brace. -/
def readScalar (value : Nat) : Nat → List Char → Option (Char × List Char)
  | _, [] => none
  | room, character :: rest =>
      if character = '\x7d' then
        if room = 6 then none
        else if value.isValidChar then some (Char.ofNat value, rest)
        else none
      else
        match room with
        | 0 => none
        | room + 1 => do
            let digit ← hexValue? character
            readScalar (16 * value + digit) room rest

/-- The character of an escape, after its backslash. -/
def readEscape : List Char → Option (Char × List Char)
  | '\'' :: rest => some ('\'', rest)
  | '"' :: rest => some ('"', rest)
  | '\\' :: rest => some ('\\', rest)
  | 'n' :: rest => some ('\n', rest)
  | 'r' :: rest => some ('\r', rest)
  | 't' :: rest => some ('\t', rest)
  | '0' :: rest => some ('\x00', rest)
  | 'x' :: first :: second :: rest => do
      let first ← hexValue? first
      let second ← hexValue? second
      return (Char.ofNat (16 * first + second), rest)
  | 'u' :: '\x7b' :: rest => readScalar 0 6 rest
  | _ => none

/-- The characters of a string up to its closing quote. -/
def readCharacters : Nat → List Char → Option (List Char × List Char)
  | 0, _ => none
  | fuel + 1, text =>
      match text with
      | [] => none
      | '"' :: rest => some ([], rest)
      | '\\' :: rest => do
          let (character, rest) ← readEscape rest
          let (others, rest) ← readCharacters fuel rest
          return (character :: others, rest)
      | character :: rest => do
          let (others, rest) ← readCharacters fuel rest
          return (character :: others, rest)

/-- The characters up to a closing text. -/
def readUpTo (closing : List Char) : List Char → Option (List Char × List Char)
  | [] => none
  | character :: rest =>
      if closing.isPrefixOf (character :: rest) then
        some ([], (character :: rest).drop closing.length)
      else do
        let (others, rest) ← readUpTo closing rest
        return (character :: others, rest)

/-- A string: with escapes in quotes, or raw after an `r` and any number of hashes. -/
def readString (text : List Char) : Option (String × List Char) :=
  match text with
  | '"' :: rest => do
      let (characters, rest) ← readCharacters (rest.length + 1) rest
      return (String.ofList characters, rest)
  | 'r' :: rest => do
      let hashes := rest.takeWhile (· = '#')
      match rest.dropWhile (· = '#') with
      | '"' :: rest =>
          let (characters, rest) ← readUpTo ('"' :: hashes) rest
          return (String.ofList characters, rest)
      | _ => none
  | _ => none

/-- A character, after its opening quote. -/
def readCharacter : List Char → Option (Char × List Char)
  | '\\' :: rest => do
      match ← readEscape rest with
      | (character, '\'' :: rest) => return (character, rest)
      | _ => none
  | '\'' :: _ => none
  | character :: '\'' :: rest => some (character, rest)
  | _ => none

/-! ## Numbers -/

def isDigitCharacter (character : Char) : Bool :=
  (hexValue? character).isSome || character = '_'

def isNumeralCharacter (character : Char) : Bool :=
  Decimal.isDigit character || character = 'e' || character = 'E' || character = '.' ||
    character = '+' || character = '-' || character = '_'

/-- The sign of a written number and the text after it. -/
def splitSign (text : List Char) : List Char × List Char :=
  match text with
  | '+' :: rest => (['+'], rest)
  | '-' :: rest => (['-'], rest)
  | _ => ([], text)

/-- The mark of a base other than ten and the text after it. -/
def splitBase (text : List Char) : List Char × List Char :=
  match text with
  | '0' :: 'x' :: rest => (['0', 'x'], rest)
  | '0' :: 'b' :: rest => (['0', 'b'], rest)
  | '0' :: 'o' :: rest => (['0', 'o'], rest)
  | _ => ([], text)

/-- A whole number that fits into 64 bits, if the text begins with one. -/
def readInteger (text : List Char) : Option (List Char × List Char) := do
  let (sign, rest) := splitSign text
  let (base, rest) := splitBase rest
  let written := sign ++ base ++ rest.takeWhile isDigitCharacter
  let value ← integer? written
  let greatest : Int := if sign.isEmpty then UInt64.size - 1 else Binary64.maxInt64
  guard (Binary64.minInt64 ≤ value && value ≤ greatest)
  return (written, rest.dropWhile isDigitCharacter)

/-- A number: a whole number when no more characters belong to a numeral than to a whole number, and
a decimal numeral otherwise. -/
def readNumber (text : List Char) : Option (List Char × List Char) :=
  let unsigned := (splitSign text).2
  let longer :=
    (unsigned.takeWhile isDigitCharacter).length < (unsigned.takeWhile isNumeralCharacter).length
  match if longer then none else readInteger text with
  | some found => some found
  | none => do
      let written := text.takeWhile isNumeralCharacter
      let _ ← numeral? written
      return (written, text.dropWhile isNumeralCharacter)

/-! ## Values -/

/-- How many levels of values the value of a document may contain. -/
def nestingLimit : Nat := 128

/-- The words that are values, with what they mean. -/
def words : List (List Char × Ron) :=
  [(['t', 'r', 'u', 'e'], boolean true), (['f', 'a', 'l', 's', 'e'], boolean false),
    (['N', 'o', 'n', 'e'], absent), (['i', 'n', 'f'], number ['i', 'n', 'f']),
    (['-', 'i', 'n', 'f'], number ['-', 'i', 'n', 'f']), (['N', 'a', 'N'], number ['N', 'a', 'N'])]

/-- A value that is a word, if the text begins with one. -/
def readWord (text : List Char) : Option (Ron × List Char) :=
  words.findSome? fun (word, value) => (skipWord word text).map fun rest => (value, rest)

/-- Whether a name and a colon follow, as at the beginning of the fields of a record. -/
def startsField (text : List Char) : Bool :=
  match readName text with
  | some (_, rest) => ((skipBlanks rest).bind List.head?) = some ':'
  | none => false

mutual

/-- One value at the start of the text, of at most `levels` levels. -/
def readValue (implicit : Bool) : Nat → Nat → List Char → Option (Ron × List Char)
  | 0, _, _ => none
  | _, 0, _ => none
  | fuel + 1, levels + 1, text =>
      match readWord text, skipWord ['S', 'o', 'm', 'e'] text with
      | some found, _ => some found
      | none, some rest => readOption implicit fuel levels rest
      | none, none =>
          match readName text with
          | some (name, rest) => do
              match ← skipBlanks rest with
              | '(' :: rest => readBody implicit fuel levels (some name) rest
              | rest => return (symbol name, rest)
          | none =>
              match text with
              | [] => none
              | '(' :: rest => readBody implicit fuel levels none rest
              | '[' :: rest => do
                  let (items, rest) ← readItems implicit fuel levels ']' rest
                  return (list items, rest)
              | '\x7b' :: rest => do
                  let (entries, rest) ← readEntries implicit fuel levels rest
                  return (map entries, rest)
              | '\'' :: rest => do
                  let (value, rest) ← readCharacter rest
                  return (letter value, rest)
              | first :: _ =>
                  if first = '"' ∨ first = 'r' then do
                    let (value, rest) ← readString text
                    return (string value, rest)
                  else do
                    let (written, rest) ← readNumber text
                    return (number written, rest)

/-- The rest of an option with a value: the value in parentheses, or alone where options are
implicit. -/
def readOption (implicit : Bool) : Nat → Nat → List Char → Option (Ron × List Char)
  | 0, _, _ => none
  | fuel + 1, levels, text => do
      match ← skipBlanks text with
      | '(' :: rest =>
          let (value, rest) ← readValue implicit fuel levels (← skipBlanks rest)
          let (_, rest) ← skipComma rest
          match rest with
          | ')' :: rest => return (present value, rest)
          | _ => none
      | rest =>
          if implicit then
            let (value, rest) ← readValue implicit fuel levels rest
            return (present value, rest)
          else none

/-- The rest of a record or a tuple, after its opening parenthesis. -/
def readBody (implicit : Bool) :
    Nat → Nat → Option String → List Char → Option (Ron × List Char)
  | 0, _, _, _ => none
  | fuel + 1, levels, name, text => do
      let text ← skipBlanks text
      if startsField text then
        let (fields, rest) ← readFields implicit fuel levels text
        return (record name fields, rest)
      else
        let (items, rest) ← readItems implicit fuel levels ')' text
        return (tuple name items, rest)

/-- The elements up to a closing mark. -/
def readItems (implicit : Bool) :
    Nat → Nat → Char → List Char → Option (List Ron × List Char)
  | 0, _, _, _ => none
  | fuel + 1, levels, closing, text => do
      match ← skipBlanks text with
      | [] => none
      | first :: rest =>
          if first = closing then return ([], rest)
          else
            let (item, rest) ← readValue implicit fuel levels (first :: rest)
            let (comma, rest) ← skipComma rest
            if comma then
              let (items, rest) ← readItems implicit fuel levels closing rest
              return (item :: items, rest)
            else if rest.head? = some closing then return ([item], rest.tail)
            else none

/-- The fields up to the closing parenthesis. -/
def readFields (implicit : Bool) :
    Nat → Nat → List Char → Option (List (String × Ron) × List Char)
  | 0, _, _ => none
  | fuel + 1, levels, text => do
      match ← skipBlanks text with
      | ')' :: rest => return ([], rest)
      | text =>
          let (name, rest) ← readName text
          let rest ← skipMark ':' rest
          let (value, rest) ← readValue implicit fuel levels rest
          let (comma, rest) ← skipComma rest
          if comma then
            let (fields, rest) ← readFields implicit fuel levels rest
            return ((name, value) :: fields, rest)
          else if rest.head? = some ')' then return ([(name, value)], rest.tail)
          else none

/-- The entries of a map up to its closing brace. -/
def readEntries (implicit : Bool) :
    Nat → Nat → List Char → Option (List (Ron × Ron) × List Char)
  | 0, _, _ => none
  | fuel + 1, levels, text => do
      match ← skipBlanks text with
      | '\x7d' :: rest => return ([], rest)
      | text =>
          let (key, rest) ← readValue implicit fuel levels text
          let rest ← skipMark ':' rest
          let (value, rest) ← readValue implicit fuel levels rest
          let (comma, rest) ← skipComma rest
          if comma then
            let (entries, rest) ← readEntries implicit fuel levels rest
            return ((key, value) :: entries, rest)
          else if rest.head? = some '\x7d' then return ([(key, value)], rest.tail)
          else none

end

/-- A document: its value, and whether its options are implicit. -/
structure Document where
  value : Ron
  implicit : Bool

def parse? (document : String) : Option Document := do
  let text ← skipBlanks document.toList
  let fuel := 3 * text.length + 3
  let (implicit, rest) ← readAttributes fuel text
  let (value, rest) ← readValue implicit fuel (nestingLimit + 1) rest
  let rest ← skipBlanks rest
  guard rest.isEmpty
  return { value, implicit }

end BranchingStory.Ron
