import BombMission.Decimal.Shortest

/-!
# Decimals as text

A number with a fractional part is written with the fewest digits that read back as the same double.
From a hundred-thousandth on and below ten to the sixteenth the digits stand in their places, with
at least one on either side of the point; other numbers have an exponent with its sign.
-/

namespace BombMission.Decimal

/-- The first place from the point that numbers are still written out for. -/
def firstPlace : Int := -4

/-- The last place from the point that numbers are still written out for. -/
def lastPlace : Int := 16

def signed : Int → List Char
  | .ofNat n => '+' :: Nat.toDigits 10 n
  | .negSucc n => '-' :: Nat.toDigits 10 (n + 1)

/-- A decimal with an exponent. One digit stands before the point, which is left out when no other
digit follows. -/
def scientific (digits : List Char) (exponent : Int) : List Char :=
  let mantissa := match digits with
    | first :: second :: rest => first :: '.' :: second :: rest
    | digits => digits
  mantissa ++ 'e' :: signed exponent

def writeDigits (decimal : Decimal) : List Char :=
  let digits := Nat.toDigits 10 decimal.digits
  let point := digits.length + decimal.exponent
  if 0 ≤ decimal.exponent ∧ point ≤ lastPlace then
    digits ++ List.replicate decimal.exponent.toNat '0' ++ ['.', '0']
  else if 0 < point ∧ point ≤ lastPlace then
    digits.take point.toNat ++ '.' :: digits.drop point.toNat
  else if firstPlace ≤ point ∧ point ≤ 0 then
    '0' :: '.' :: List.replicate (-point).toNat '0' ++ digits
  else scientific digits (point - 1)

def write (x : Float) : String :=
  let negative := x.toBits >>> 63 != 0
  let size := x.abs
  let digits := if size == 0 then ['0', '.', '0'] else writeDigits (shortest size)
  String.ofList (if negative then '-' :: digits else digits)

end BombMission.Decimal
