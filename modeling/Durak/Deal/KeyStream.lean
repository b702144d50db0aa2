/-!
# The key stream

Chance enters a game through a seed of sixty-four bits.  The seed is expanded to a key of eight
words, and the key to an endless stream of words by the ChaCha permutation with eight rounds: block
`n` is the permutation of the constants, the key, and the block number, added to what it started
from.

`keyStream` gives the word at any position.  The same seed always gives the same stream, so a deal
is a function of its seed.
-/

set_option autoImplicit false

namespace Durak

/-! ## From a seed to a key -/

/-- Turns a word to the right. -/
def rotateRight (word : UInt32) (places : UInt32) : UInt32 :=
  (word >>> places) ||| (word <<< (32 - places))

/-- Turns a word to the left. -/
def rotateLeft (word : UInt32) (places : UInt32) : UInt32 :=
  (word <<< places) ||| (word >>> (32 - places))

/-- One step of the generator that expands a seed. -/
def nextSeedState (state : UInt64) : UInt64 :=
  state * 6364136223846793005 + 11634580027462260723

/-- The word a state of that generator gives: some middle digits, turned by its first digits. -/
def seedWord (state : UInt64) : UInt32 :=
  rotateRight (((state >>> 18) ^^^ state) >>> 27).toUInt32 (state >>> 59).toUInt32

/-- The first so many words a seed expands to. -/
def seedWords : Nat → UInt64 → List UInt32
  | 0, _ => []
  | count + 1, state =>
    let state := nextSeedState state
    seedWord state :: seedWords count state

/-- The key of a seed. -/
def seedKey (seed : UInt64) : List UInt32 := seedWords 8 seed

/-! ## Blocks -/

/-- Sixteen words. -/
abbrev Block := Vector UInt32 16

/-- Mixes four words of a block. -/
def quarterRound (a b c d : Fin 16) (block : Block) : Block :=
  let stir (target source turned : Fin 16) (places : UInt32) (block : Block) : Block :=
    let block := block.set target (block[target] + block[source])
    block.set turned (rotateLeft (block[turned] ^^^ block[target]) places)
  stir c d b 7 <| stir a b d 8 <| stir c d b 12 <| stir a b d 16 block

/-- Mixes the columns of a block and then its diagonals. -/
def doubleRound (block : Block) : Block :=
  quarterRound 3 4 9 14 <| quarterRound 2 7 8 13 <| quarterRound 1 6 11 12 <|
  quarterRound 0 5 10 15 <| quarterRound 3 7 11 15 <| quarterRound 2 6 10 14 <|
  quarterRound 1 5 9 13 <| quarterRound 0 4 8 12 block

/-- The four constants at the head of every block. -/
def blockConstants : List UInt32 := [0x61707865, 0x3320646e, 0x79622d32, 0x6b206574]

/-- The block a permutation starts from: the constants, the key, the block number, and nothing in
the last two words. -/
def startBlock (key : List UInt32) (number : UInt64) : Block :=
  let words := blockConstants ++ key ++ [number.toUInt32, (number >>> 32).toUInt32]
  Vector.ofFn fun place => words.getD place.val 0

/-- A block of the key stream. -/
def streamBlock (key : List UInt32) (number : UInt64) : Block :=
  let start := startBlock key number
  let mixed := doubleRound <| doubleRound <| doubleRound <| doubleRound start
  mixed.zipWith (· + ·) start

/-- The word of a seed's key stream at a position. -/
def keyStream (seed : UInt64) (position : Nat) : UInt32 :=
  let block := streamBlock (seedKey seed) (UInt64.ofNat (position / 16))
  block.get ⟨position % 16, Nat.mod_lt position (by decide)⟩

end Durak
