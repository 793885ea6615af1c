import BombMission.Random.Source

/-!
# Drawing without repetition

`sampleIndices` draws a number of distinct places below a bound, in random order. Three methods
share the work, chosen by how many places are wanted of how many: shuffling the front of the list of
all places; building a list whose entries stay distinct, where a place that was drawn before gives
way to the newest one; and the same with a shuffle at the end, when the list is long.

Larger draws are left out. The usual library draws 163 or more places of a list with at least 270
entries for each of them anew until they are distinct, and for lists of 500000 entries or more it
chooses between the methods by other numbers. Here the three methods and their numbers serve such
draws as well, so the places are distinct and below the bound there too, but they are not the ones
that the library draws.
-/

namespace BombMission

variable {σ : Type} [RandomSource σ]

/-- Fills places from `first` on, each with a random one of the entries not yet settled. -/
def fillPlaces (size : Nat) : (steps first : Nat) → Array Nat → σ → Array Nat × σ
  | 0, _, entries, source => (entries, source)
  | steps + 1, first, entries, source =>
    let (ahead, source) := RandomSource.below (size - first) source
    fillPlaces size steps (first + 1) (entries.swapIfInBounds first (first + ahead)) source

/-- Settles places from `last` down to the second, each with a random one of the entries up to
it. -/
def settlePlaces : (last : Nat) → Array Nat → σ → Array Nat × σ
  | 0, entries, source => (entries, source)
  | last + 1, entries, source =>
    let (place, source) := RandomSource.below (last + 2) source
    settlePlaces last (entries.swapIfInBounds (last + 1) place) source

/-- Where the newest place goes when the drawn one is in the list already. -/
inductive Repeated where
  /-- In front of the drawn one, which keeps the order random. -/
  | inFront
  | atEnd
  deriving DecidableEq, Repr

/-- Adds to a list of places one drawn up to `newest`, or `newest` when the drawn one is there. -/
def addPlace (policy : Repeated) (newest drawn : Nat) (chosen : List Nat) : List Nat :=
  match chosen.idxOf? drawn, policy with
  | none, _ => chosen ++ [drawn]
  | some place, .inFront => chosen.insertIdx place newest
  | some _, .atEnd => chosen ++ [newest]

/-- Adds places to a list, the first drawn up to `newest`, the next up to one more, and so on. -/
def addPlaces (policy : Repeated) : (steps newest : Nat) → List Nat → σ → List Nat × σ
  | 0, _, chosen, source => (chosen, source)
  | steps + 1, newest, chosen, source =>
    let (drawn, source) := RandomSource.below (newest + 1) source
    addPlaces policy steps (newest + 1) (addPlace policy newest drawn chosen) source

/-- Whether so many places of the whole are drawn by shuffling the front of all places. -/
def shufflesFront (size amount : Nat) : Bool :=
  if amount < 163 then 11 < amount && 5 * size < (50 + 8 * amount) * amount
  else size < 270 * amount

/-- Draws `amount` distinct places below `size`, where `amount` is at most `size`. -/
def sampleIndices (size amount : Nat) (source : σ) : List Nat × σ :=
  -- when a good part of all places is wanted, the front of their list is shuffled
  if shufflesFront size amount then
    let (entries, source) := fillPlaces size amount 0 (Array.range size) source
    (entries.toList.take amount, source)
  else if amount < 50 then addPlaces .inFront amount (size - amount) [] source
  else
    -- a long list is kept in the order of drawing and shuffled once it is complete
    let (chosen, source) := addPlaces .atEnd amount (size - amount) [] source
    let (entries, source) := settlePlaces (amount - 1) chosen.toArray source
    (entries.toList, source)

/-- Draws up to `amount` distinct entries of a list. -/
def sample {α : Type} (entries : List α) (amount : Nat) (source : σ) : List α × σ :=
  let (places, source) := sampleIndices entries.length (min amount entries.length) source
  (places.filterMap (entries[·]?), source)

end BombMission
