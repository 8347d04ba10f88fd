import BranchingStory.Random.KeyStream

/-!
# Uniform draws

A generator is a key and the number of stream words read so far.  A draw from a range multiplies a
word by the size of the range and keeps the high half; words whose low half lies in the last,
incomplete part are refused, which makes all answers equally likely.
-/

namespace BranchingStory

open BranchingStory.Random

/-- A place in a random stream. -/
structure Generator where
  key : Key
  position : Nat
deriving DecidableEq

namespace Generator

/-- The start of the stream of a seed. -/
def ofSeed (seed : UInt64) : Generator := { key := keyOfSeed seed, position := 0 }

/-- The next word of the stream. -/
def next32 (generator : Generator) : Nat × Generator :=
  ((word generator.key generator.position).toNat,
    { generator with position := generator.position + 1 })

/-- The next two words as one number, low word first. -/
def next64 (generator : Generator) : Nat × Generator :=
  let (low, generator) := generator.next32
  let (high, generator) := generator.next32
  (high * UInt32.size + low, generator)

/-- The low halves that are kept: as many as the largest doubling of the range below `2 ^ width`. -/
def keptLowHalves (width range : Nat) : Nat := range * Nat.pow 2 (width - 1 - range.log2)

/-- How many words a draw refuses at most; each is refused with a chance below one half. -/
def maxAttempts : Nat := 4096

/-- A number below `range`, drawn with `width` random bits at a time. -/
def below (width range : Nat) (next : Generator → Nat × Generator) :
    Nat → Generator → Nat × Generator
  | 0, generator => (0, generator)
  | attempts + 1, generator =>
      let (drawn, generator) := next generator
      let product := drawn * range
      let bound := Nat.pow 2 width
      if product % bound < keptLowHalves width range then (product / bound, generator)
      else below width range next attempts generator

/-- One throw of a die with the faces `1` to `sides`. -/
def roll (sides : UInt32) (generator : Generator) : UInt32 × Generator :=
  let (face, generator) := below 32 sides.toNat next32 maxAttempts generator
  (UInt32.ofNat (face + 1), generator)

/-- An integer between two 64-bit integers, both included.  The full range takes a raw draw. -/
def between (lowest highest : Int) (generator : Generator) : Int × Generator :=
  let range := (highest - lowest + 1).toNat
  if range = UInt64.size then
    let (drawn, generator) := generator.next64
    ((drawn : Int).bmod UInt64.size, generator)
  else
    let (offset, generator) := below 64 range next64 maxAttempts generator
    (lowest + offset, generator)

end Generator

end BranchingStory
