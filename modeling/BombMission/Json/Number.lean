import BombMission.Json.Reader

/-!
# Reading JSON numbers

A number is kept as its leading digits, as many as 64 bits hold, and a power of ten. One that needs
nothing else is whole; any other is turned into a double by scaling its leading digits, and it is
refused when no double is that large.
-/

namespace BombMission.Json

/-- The numbers below this one fit 64 bits. -/
def wordLimit : Nat := 0x10000000000000000

def digitValue (c : Char) : Nat :=
  c.toNat - '0'.toNat

/-- Adds digits to a number while 64 bits hold it, and counts the digits that are left. -/
def addDigits : (leading : Nat) → (digits : List Char) → Nat × Nat
  | leading, [] => (leading, 0)
  | leading, digit :: digits =>
    if 10 * leading + digitValue digit < wordLimit then
      addDigits (10 * leading + digitValue digit) digits
    else (leading, digits.length + 1)

def digitsOf (text : List Char) : List Char :=
  text.takeWhile Char.isDigit

def afterDigits (text : List Char) : List Char :=
  text.dropWhile Char.isDigit

/-- The problem with a text that does not go on with a digit. -/
def missingDigit (text : List Char) : Problem :=
  if text.isEmpty then .truncated else .malformed

def takeDigits (text : List Char) : Except Problem (List Char × List Char) :=
  if (digitsOf text).isEmpty then .error (missingDigit text)
  else .ok (digitsOf text, afterDigits text)

/-- Takes the digits of a whole number, which start with a zero only when there are no others. -/
def takeWhole (text : List Char) : Except Problem (List Char × List Char) :=
  match takeDigits text with
  | .error problem => .error problem
  | .ok ('0' :: _ :: _, _) => .error .malformed
  | .ok (digits, rest) => .ok (digits, rest)

/-- Takes the digits after a point, when there is one. -/
def takeFraction : List Char → Except Problem (Option (List Char) × List Char)
  | '.' :: text =>
    match takeDigits text with
    | .error problem => .error problem
    | .ok (digits, rest) => .ok (some digits, rest)
  | text => .ok (none, text)

/-- Takes a sign, where none is a plus. -/
def takeSign : List Char → (Bool × List Char)
  | '+' :: text => (false, text)
  | '-' :: text => (true, text)
  | text => (false, text)

def takeExponent : List Char → Except Problem (Option Int × List Char)
  | c :: text =>
    if c = 'e' ∨ c = 'E' then
      let (negative, text) := takeSign text
      match takeDigits text with
      | .error problem => .error problem
      | .ok (digits, rest) =>
        let size : Int := Nat.ofDigitChars 10 digits 0
        .ok (some (if negative then -size else size), rest)
    else .ok (none, c :: text)
  | [] => .ok (none, [])

def largestPower : Nat := 308

def powerOfTen (exponent : Nat) : Float :=
  Float.ofScientific 1 false exponent

/-- A double times a power of ten, as far as there are doubles that large. -/
def scale (x : Float) (exponent : Int) : Option Float :=
  -- one multiplication or division, so one rounding, as long as the power is a double
  if exponent.natAbs ≤ largestPower then
    if 0 ≤ exponent then
      let scaled := x * powerOfTen exponent.toNat
      if scaled.isInf then none else some scaled
    else some (x / powerOfTen exponent.natAbs)
  else if x == 0 then some x
  else if 0 ≤ exponent then none
  else scale (x / powerOfTen largestPower) (exponent + largestPower)
termination_by exponent.natAbs
decreasing_by
  simp only [largestPower] at *
  omega

/-- The number with these leading digits and this power of ten. -/
def roundedNumber (negative : Bool) (leading : Nat) (exponent : Int) : Except Problem Number :=
  match scale leading.toUInt64.toFloat exponent with
  | none => .error .malformed
  | some size => .ok (.floating (if negative then -size else size))

/-- The greatest number whose negative counterpart fits 64 bits. -/
def negativeLimit : Nat := 0x8000000000000000

def wholeNumber (negative : Bool) (value : Nat) : Number :=
  if !negative then .natural value
  else if 0 < value ∧ value ≤ negativeLimit then .negative value
  else .floating (-value.toUInt64.toFloat)

/-- The number that the parts of a numeral make. -/
def numberOfParts (negative : Bool) (digits : List Char) (fraction : Option (List Char))
    (exponent : Option Int) : Except Problem Number :=
  let (leading, left) := addDigits 0 digits
  if left = 0 ∧ fraction = none ∧ exponent = none then .ok (wholeNumber negative leading)
  else
    -- the digits behind the point join the leading ones while they fit
    let places := fraction.getD []
    let (leading, unread) := addDigits leading places
    roundedNumber negative leading (exponent.getD 0 + left - (places.length - unread : Nat))

def takeNumber (negative : Bool) : Reader Number := fun text => do
  let (digits, text) ← takeWhole text
  let (fraction, text) ← takeFraction text
  let (exponent, text) ← takeExponent text
  let value ← numberOfParts negative digits fraction exponent
  .ok (value, text)

/-- Skips a number after its sign. Nothing is asked of its size, and one that ends too early breaks
the rules. -/
def skipNumber (text : List Char) : Except Problem (List Char) :=
  let parts : Except Problem (List Char) := do
    let (_, text) ← takeWhole text
    let (_, text) ← takeFraction text
    let (_, text) ← takeExponent text
    .ok text
  match parts with
  | .ok rest => .ok rest
  | .error _ => .error .malformed

end BombMission.Json
