/-!
# Blank characters

The characters that are trimmed from authored names and typed commands: the white space of the
Unicode standard.
-/

namespace BranchingStory.Text

/-- The characters with the property White_Space. -/
def isBlank (character : Char) : Bool :=
  let code := character.toNat
  (0x9 ≤ code && code ≤ 0xD) || code = 0x20 || code = 0x85 || code = 0xA0 || code = 0x1680 ||
    (0x2000 ≤ code && code ≤ 0x200A) || code = 0x2028 || code = 0x2029 || code = 0x202F ||
    code = 0x205F || code = 0x3000

def dropBlanks (text : List Char) : List Char := text.dropWhile isBlank

/-- The text without the blanks at its ends. -/
def trim (text : String) : String :=
  String.ofList (dropBlanks (dropBlanks text.toList).reverse).reverse

end BranchingStory.Text
