/-!
# Shortest decimals

Several decimals read back as the same double: those between the midpoints to its two neighbours.
`shortest` finds the one with the fewest digits, and of several such the nearest to the double. It
works on exact integers: a double and the two midpoints are multiples of one power of two.
-/

namespace BombMission

/-- The number `digits * 10 ^ exponent`. -/
structure Decimal where
  digits : Nat
  exponent : Int
  deriving DecidableEq, Repr

namespace Decimal

/-- A positive double between the midpoints to its neighbours, all three divided by `unit`. The
midpoints belong to the double when its last bit is zero. -/
structure Span where
  low : Nat
  value : Nat
  high : Nat
  unit : Nat
  closed : Bool
  deriving DecidableEq, Repr

/-- The span of the double `significand * 2 ^ (power + 2)`. The gap below the least significand of a
binade is half as wide. -/
def Span.of (significand : Nat) (power : Int) (narrowBelow : Bool) : Span :=
  -- in quarters of the last bit, so that the midpoints are whole
  let scale := Nat.pow 2 power.toNat
  { low := (4 * significand - if narrowBelow then 1 else 2) * scale
    value := 4 * significand * scale
    high := (4 * significand + 2) * scale
    unit := Nat.pow 2 (-power).toNat
    closed := decide (significand % 2 = 0) }

/-- The number of values of the fraction of a double, whose significand has one bit more. -/
def fractionValues : Nat := 0x10000000000000

/-- The number of values of the exponent of a double. -/
def exponentValues : Nat := 0x800

def Span.ofBits (bits : Nat) : Span :=
  let fraction := bits % fractionValues
  let biased := bits / fractionValues % exponentValues
  -- without an exponent the double has no leading bit that goes without saying
  if biased = 0 then .of fraction (-1076) false
  else .of (fraction + fractionValues) (Int.ofNat biased - 1077) (fraction = 0 && 1 < biased)

/-- The span in units of a power of ten. -/
def Span.rescale (span : Span) (exponent : Int) : Span :=
  let scale := Nat.pow 10 (-exponent).toNat
  { low := span.low * scale
    value := span.value * scale
    high := span.high * scale
    unit := span.unit * Nat.pow 10 exponent.toNat
    closed := span.closed }

/-- Whether a multiple of the unit reads back as the double. -/
def Span.contains (span : Span) (n : Nat) : Bool :=
  let place := n * span.unit
  if span.closed then span.low ≤ place && place ≤ span.high
  else span.low < place && place < span.high

/-- The multiple of the unit that reads back as the double and is nearest to it. Of two equally near
ones it is the even one. -/
def Span.nearest? (span : Span) : Option Nat :=
  let below := span.value / span.unit
  let excess := span.value % span.unit
  -- a tie goes to the even multiple
  let upper := span.unit < 2 * excess || (span.unit = 2 * excess && below % 2 = 1)
  match span.contains below, span.contains (below + 1) with
  | true, true => some (if upper then below + 1 else below)
  | true, false => some below
  | false, true => some (below + 1)
  | false, false => none

/-- The number of zeros that the fraction of a double below one starts with, at most. -/
def maxLeadingZeros : Nat := 330

/-- The exponent of the first digit of a quotient below one, for a divisor ten times as small in
each try. -/
def leadingExponent (value unit : Nat) : (tries : Nat) → (exponent : Int) → Int
  | 0, exponent => exponent
  | tries + 1, exponent =>
    if unit ≤ value then exponent else leadingExponent (10 * value) unit tries (exponent - 1)

/-- The exponent of the first digit of the double. -/
def Span.magnitude (span : Span) : Int :=
  if span.unit ≤ span.value then ((Nat.toDigits 10 (span.value / span.unit)).length : Int) - 1
  else leadingExponent span.value span.unit maxLeadingZeros 0

/-- A decimal without zeros at its end, when there are at most so many. -/
def trimZeros : (most : Nat) → Decimal → Decimal
  | 0, decimal => decimal
  | most + 1, decimal =>
    if decimal.digits % 10 = 0 then trimZeros most ⟨decimal.digits / 10, decimal.exponent + 1⟩
    else decimal

/-- The digits that always suffice for a double. -/
def enoughDigits : Nat := 17

/-- The shortest decimal in a span with at least `count` digits, where `tries` counts may be
tried. -/
def Span.shortestFrom (span : Span) : (tries count : Nat) → Decimal
  | 0, count =>
    let exponent := span.magnitude + 1 - count
    let grid := span.rescale exponent
    ⟨grid.value / grid.unit, exponent⟩
  | tries + 1, count =>
    let exponent := span.magnitude + 1 - count
    match (span.rescale exponent).nearest? with
    | some digits => trimZeros enoughDigits ⟨digits, exponent⟩
    | none => span.shortestFrom tries (count + 1)

/-- The shortest decimal that reads back as a positive double. -/
def shortest (x : Float) : Decimal :=
  (Span.ofBits x.toBits.toNat).shortestFrom enoughDigits 1

end Decimal

end BombMission
