/-!
# Decimal numerals

Two kinds of numeral occur in a mission. A *short numeral* is a run of one to nine decimal digits
in running text, such as the count before a pool; `takeShortNumeral` splits one off the front. A
*setting value* is a whole word that must be a number within a limit; `readNumber` accepts an
optional plus sign and any number of leading zeros, and `readNonNegative` a minus sign before zero
as well.
-/

namespace BombMission.Text

/-- The largest number that fits a 32-bit word. -/
def maxWord : Nat := 0xFFFFFFFF

def digitsValue (digits : List Char) : Nat :=
  Nat.ofDigitChars 10 digits 0

/-- The number at the front of the text and the text after it, when the digits there are at least
one and at most nine. -/
def takeShortNumeral (text : List Char) : Option (Nat × List Char) :=
  let digits := text.takeWhile Char.isDigit
  if 1 ≤ digits.length ∧ digits.length ≤ 9 then
    some (digitsValue digits, text.dropWhile Char.isDigit)
  else none

/-- The value of a word of decimal digits, when there are some and the value is within `limit`. -/
def readDigits (limit : Nat) (word : List Char) : Option Nat :=
  if word ≠ [] ∧ word.all Char.isDigit ∧ digitsValue word ≤ limit then some (digitsValue word)
  else none

/-- The number written by a word of digits with an optional plus sign, within `limit`. -/
def readNumber (limit : Nat) : List Char → Option Nat
  | '+' :: word => readDigits limit word
  | word => readDigits limit word

/-- Like `readNumber`, but zero may carry a minus sign. -/
def readNonNegative (limit : Nat) : List Char → Option Nat
  | '-' :: word => readDigits 0 word
  | word => readNumber limit word

theorem takeShortNumeral_suffix {text rest : List Char} {n : Nat}
    (taken : takeShortNumeral text = some (n, rest)) : rest <:+ text := by
  simp only [takeShortNumeral, Option.ite_none_right_eq_some, Option.some.injEq,
    Prod.mk.injEq] at taken
  exact taken.2.2 ▸ List.dropWhile_suffix _

theorem length_takeShortNumeral {text rest : List Char} {n : Nat}
    (taken : takeShortNumeral text = some (n, rest)) : rest.length < text.length := by
  simp only [takeShortNumeral, Option.ite_none_right_eq_some, Option.some.injEq,
    Prod.mk.injEq] at taken
  have parts := @List.takeWhile_append_dropWhile Char Char.isDigit text
  have whole := congrArg List.length parts
  rw [List.length_append, taken.2.2] at whole
  omega

theorem readDigits_le {limit n : Nat} {word : List Char} (read : readDigits limit word = some n) :
    n ≤ limit := by
  simp only [readDigits, Option.ite_none_right_eq_some, Option.some.injEq] at read
  omega

theorem readNumber_le {limit n : Nat} {word : List Char} (read : readNumber limit word = some n) :
    n ≤ limit := by
  unfold readNumber at read
  split at read <;> exact readDigits_le read

end BombMission.Text
