import BombMission.Random.Source

/-!
# A mixed counter

A source whose state is a 64-bit counter with a fixed odd step. A word is the upper half of the
counter after two multiplications with shifts between them have mixed its bits.
-/

namespace BombMission

structure SplitMix where
  counter : UInt64
  deriving DecidableEq, Repr

namespace SplitMix

def step : UInt64 := 0x9E3779B97F4A7C15

def mix (counter : UInt64) : UInt64 :=
  let first := (counter ^^^ (counter >>> 30)) * 0xBF58476D1CE4E5B9
  let second := (first ^^^ (first >>> 27)) * 0x94D049BB133111EB
  second ^^^ (second >>> 31)

instance : WordSource SplitMix where
  next source :=
    let counter := source.counter + step
    ((mix counter >>> 32).toUInt32, ⟨counter⟩)

def ofSeed (seed : Nat) : SplitMix := ⟨seed.toUInt64⟩

end SplitMix

end BombMission
