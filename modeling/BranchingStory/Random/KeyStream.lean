/-!
# The random key stream

Random draws read one endless stream of 32-bit words that a key determines.  The stream is the
ChaCha stream cipher with twelve rounds: block number `n` is a scrambled table of four constants,
the key and the number `n`, and the words of the blocks follow each other.  A word therefore has a
position, and reading it needs no state besides the key.
-/

namespace BranchingStory.Random

/-- The eight words that determine a stream. -/
abbrev Key := Vector UInt32 8

abbrev Block := Vector UInt32 16

def rotateLeft (word : UInt32) (amount : UInt32) : UInt32 :=
  (word <<< amount) ||| (word >>> (32 - amount))

def quarterRound (first second third fourth : Fin 16) (block : Block) : Block :=
  let a := block[first] + block[second]
  let d := rotateLeft (block[fourth] ^^^ a) 16
  let c := block[third] + d
  let b := rotateLeft (block[second] ^^^ c) 12
  let a := a + b
  let d := rotateLeft (d ^^^ a) 8
  let c := c + d
  let b := rotateLeft (b ^^^ c) 7
  (((block.set first a).set second b).set third c).set fourth d

/-- One round on the columns of the table and one on its diagonals. -/
def doubleRound (block : Block) : Block :=
  block
    |> quarterRound 0 4 8 12 |> quarterRound 1 5 9 13
    |> quarterRound 2 6 10 14 |> quarterRound 3 7 11 15
    |> quarterRound 0 5 10 15 |> quarterRound 1 6 11 12
    |> quarterRound 2 7 8 13 |> quarterRound 3 4 9 14

/-- The table before scrambling: the words of "expand 32-byte k", the key, the block number as
two words, low word first, and two zeros. -/
def startBlock (key : Key) (number : Nat) : Block :=
  #v[0x61707865, 0x3320646e, 0x79622d32, 0x6b206574,
    key[0], key[1], key[2], key[3], key[4], key[5], key[6], key[7],
    UInt32.ofNat number, UInt32.ofNat (number / UInt32.size), 0, 0]

/-- A block of the stream: the scrambled table added to the table itself. -/
def block (key : Key) (number : Nat) : Block :=
  let start := startBlock key number
  let scrambled :=
    start |> doubleRound |> doubleRound |> doubleRound
      |> doubleRound |> doubleRound |> doubleRound
  Vector.zipWith (· + ·) scrambled start

/-- The word at a position of the stream. -/
def word (key : Key) (position : Nat) : UInt32 :=
  (block key (position / 16))[Fin.ofNat 16 position]

/-- One step of the seed expansion: the next state of the counter. -/
def seedStep (state : UInt64) : UInt64 :=
  state * 6364136223846793005 + 11634580027462260723

/-- The word that a state of the counter yields. -/
def seedWord (state : UInt64) : UInt32 :=
  let mixed := (((state >>> 18) ^^^ state) >>> 27).toUInt32
  let amount := (state >>> 59).toUInt32
  (mixed >>> amount) ||| (mixed <<< ((32 - amount) % 32))

/-- The key that a seed is expanded to. -/
def keyOfSeed (seed : UInt64) : Key :=
  let first := seedStep seed
  let second := seedStep first
  let third := seedStep second
  let fourth := seedStep third
  let fifth := seedStep fourth
  let sixth := seedStep fifth
  let seventh := seedStep sixth
  let eighth := seedStep seventh
  #v[seedWord first, seedWord second, seedWord third, seedWord fourth,
    seedWord fifth, seedWord sixth, seedWord seventh, seedWord eighth]

end BranchingStory.Random
