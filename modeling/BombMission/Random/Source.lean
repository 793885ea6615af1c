/-!
# Random sources

All that a mission leaves to chance is a number below some bound, drawn again and again from a
source that is carried along. `RandomSource` is that interface. A source of 32-bit words is one as
well: it draws words until one may be scaled to the bound without favouring any number.
-/

namespace BombMission

/-- A source that gives numbers below a bound. -/
class RandomSource (σ : Type) where
  /-- A number below the bound, and the source after the draw. -/
  below : Nat → σ → Nat × σ
  below_lt : ∀ bound source, 0 < bound → (below bound source).1 < bound

class WordSource (σ : Type) where
  next : σ → UInt32 × σ

namespace WordSource

def wordValues : Nat := 0x100000000

/-- The greatest low half that the product of a word and the bound may have. It leaves as many
products for each number below the bound as for any other. -/
def zone (bound : Nat) : Nat :=
  (bound <<< (31 - Nat.log2 bound) - 1) % wordValues

/-- Draws words until the product of one with the bound may stand. After `tries` refusals the next
word is taken as it is. -/
def scaledWord {σ : Type} [WordSource σ] (bound : Nat) : (tries : Nat) → σ → Nat × σ
  | 0, source =>
    let (word, source) := next source
    (word.toNat * bound / wordValues, source)
  | tries + 1, source =>
    let (word, source) := next source
    let product := word.toNat * bound
    if product % wordValues ≤ zone bound then (product / wordValues, source)
    else scaledWord bound tries source

/-- Refusals after which a draw ends. A bound has fewer than half of the words refused, so no draw
comes near them. -/
def maxTries : Nat := 0x10000000000000000

theorem scaledWord_lt {σ : Type} [WordSource σ] {bound : Nat} (positive : 0 < bound) (tries : Nat)
    (source : σ) : (scaledWord bound tries source).1 < bound := by
  have scaled : ∀ word : UInt32, word.toNat * bound / wordValues < bound := by
    intro word
    have small : word.toNat < wordValues := word.toNat_lt
    rw [Nat.div_lt_iff_lt_mul (by decide), Nat.mul_comm bound]
    exact Nat.mul_lt_mul_of_pos_right small positive
  induction tries generalizing source with
  | zero => exact scaled _
  | succ tries ih =>
    simp only [scaledWord]
    split
    · exact scaled _
    · exact ih _

instance {σ : Type} [WordSource σ] : RandomSource σ where
  below bound source := scaledWord bound maxTries source
  below_lt _ source positive := scaledWord_lt positive maxTries source

end WordSource

end BombMission
