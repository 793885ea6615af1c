import BombMission.Random.Source

/-!
# The ChaCha stream

A source whose words are the ChaCha stream with twelve rounds, for a key of eight words. The stream
is a sequence of blocks of sixteen words, each computed from the key and the number of the block, so
a source is just a key and a place in its stream. `ofSeed` spreads a 64-bit seed over the key by
means of a second, smaller generator.
-/

namespace BombMission

/-- A key and the number of words already drawn from its stream. -/
structure ChaCha where
  key : Vector UInt32 8
  drawn : Nat
  deriving DecidableEq, Repr

namespace ChaCha

/-- Sixteen words, as the rounds change them. -/
abbrev Block := Vector UInt32 16

def rotateLeft (word : UInt32) (bits : UInt32) : UInt32 :=
  (word <<< bits) ||| (word >>> (32 - bits))

/-- Adds one word to another and turns a third by what came out. -/
def addAndTurn (into added turned : Fin 16) (bits : UInt32) (block : Block) : Block :=
  let block := block.set into (block[into] + block[added])
  block.set turned (rotateLeft (block[turned] ^^^ block[into]) bits)

def quarterRound (a b c d : Fin 16) (block : Block) : Block :=
  addAndTurn c d b 7 (addAndTurn a b d 8 (addAndTurn c d b 12 (addAndTurn a b d 16 block)))

/-- Mixes the four columns of a block and then its four diagonals. -/
def doubleRound (block : Block) : Block :=
  let columns := block |> quarterRound 0 4 8 12 |> quarterRound 1 5 9 13
    |> quarterRound 2 6 10 14 |> quarterRound 3 7 11 15
  columns |> quarterRound 0 5 10 15 |> quarterRound 1 6 11 12
    |> quarterRound 2 7 8 13 |> quarterRound 3 4 9 14

def doubleRounds : Nat := 6

/-- The block before any round: four constants, the key, the number of the block with its low word
first, and two zeros. -/
def start (key : Vector UInt32 8) (number : UInt64) : Block :=
  #v[0x61707865, 0x3320646e, 0x79622d32, 0x6b206574,
     key[0], key[1], key[2], key[3], key[4], key[5], key[6], key[7],
     number.toUInt32, (number >>> 32).toUInt32, 0, 0]

def block (key : Vector UInt32 8) (number : UInt64) : Block :=
  let mixed := doubleRounds.repeat doubleRound (start key number)
  mixed.zipWith (· + ·) (start key number)

def word (key : Vector UInt32 8) (place : Nat) : UInt32 :=
  (block key (place / 16).toUInt64).get ⟨place % 16, Nat.mod_lt _ (by decide)⟩

instance : WordSource ChaCha where
  next source := (word source.key source.drawn, { source with drawn := source.drawn + 1 })

/-- The counter from which the words of a key are made, after one step. -/
def stepSeed (state : UInt64) : UInt64 :=
  state * 6364136223846793005 + 11634580027462260723

/-- The word of a key that a counter gives. -/
def seedWord (state : UInt64) : UInt32 :=
  let word := (((state >>> 18) ^^^ state) >>> 27).toUInt32
  let turn := (state >>> 59).toUInt32
  (word >>> turn) ||| (word <<< (32 - turn))

def seedState (seed : UInt64) (steps : Nat) : UInt64 :=
  steps.repeat stepSeed seed

def ofSeed (seed : Nat) : ChaCha where
  key := Vector.ofFn fun i => seedWord (seedState seed.toUInt64 (i.val + 1))
  drawn := 0

end ChaCha

end BombMission
