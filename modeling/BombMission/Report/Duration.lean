/-!
# Durations in reports

A duration is shown in the largest unit of which it has at least one, with the smaller ones behind a
point and without zeros at the end.
-/

namespace BombMission

structure Duration where
  nanoseconds : Nat
  deriving DecidableEq, Repr

/-- Digits of a fraction with so many places, without zeros at the end. -/
def fractionDigits (places n : Nat) : List Char :=
  let digits := Nat.toDigits 10 n
  let padded := List.replicate (places - digits.length) '0' ++ digits
  (padded.reverse.dropWhile (· == '0')).reverse

/-- A number of nanoseconds in a unit of ten to the power of `places` of them. -/
def inUnit (places : Nat) (unit : String) (nanoseconds : Nat) : String :=
  let fraction := fractionDigits places (nanoseconds % Nat.pow 10 places)
  toString (nanoseconds / Nat.pow 10 places) ++
    (if fraction.isEmpty then "" else "." ++ String.ofList fraction) ++ unit

def Duration.render (duration : Duration) : String :=
  let n := duration.nanoseconds
  if 1000000000 ≤ n then inUnit 9 "s" n
  else if 1000000 ≤ n then inUnit 6 "ms" n
  else if 1000 ≤ n then inUnit 3 "µs" n
  else inUnit 0 "ns" n

end BombMission
