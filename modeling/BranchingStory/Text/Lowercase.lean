import BranchingStory.Text.CaseTable

/-!
# Lowercase text

Lowercasing follows the Unicode standard: a capital sigma at the end of a word becomes the final
small sigma, the dotted capital I becomes an i with a combining dot, and every other letter has one
lowercase letter.
-/

namespace BranchingStory.Text

def inRanges (ranges : List (Nat × Nat)) (character : Char) : Bool :=
  ranges.any fun (first, last) => first ≤ character.toNat && character.toNat ≤ last

def isCaseIgnorable (character : Char) : Bool := inRanges caseIgnorableRanges character

def isCased (character : Char) : Bool := inRanges casedRanges character

/-- The lowercase letter of a character, or the character itself. -/
def lowercaseChar (character : Char) : Char :=
  let code := character.toNat
  match lowercaseRuns.find? fun (first, last, step, _) =>
      first ≤ code && code ≤ last && (code - first) % step = 0 with
  | some (_, _, _, shift) => Char.ofNat (code + shift).toNat
  | none => character

/-- Whether the nearest character that is not ignored is cased. -/
def reachesCased (text : List Char) : Bool :=
  match text.dropWhile isCaseIgnorable with
  | character :: _ => isCased character
  | [] => false

/-- Lowercases the rest of a text; `before` holds the earlier characters, nearest first. -/
def lowercaseAfter (before : List Char) : List Char → List Char
  | [] => []
  | character :: rest =>
      let lowered :=
        if character = 'Σ' then
          if reachesCased before && !reachesCased rest then ['ς'] else ['σ']
        else if character = 'İ' then ['i', '\u0307']
        else [lowercaseChar character]
      lowered ++ lowercaseAfter (character :: before) rest

def lowercase (text : String) : String := String.ofList (lowercaseAfter [] text.toList)

end BranchingStory.Text
