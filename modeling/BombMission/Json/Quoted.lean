import BombMission.Json.Reader
import BombMission.Text.ByteSize

/-!
# Reading JSON strings

A string ends at the first quote that is not escaped. Escapes by code give units of UTF-16, so a
character beyond the first plane takes two of them. A string that is read must pair its surrogates;
in a string that is only skipped they may stand alone.
-/

namespace BombMission.Json

open Text (byteSize)

/-- What is asked of escapes that give surrogates. -/
inductive Surrogates where
  | paired
  | loose
  deriving DecidableEq, Repr

def hexDigit? (c : Char) : Option Nat :=
  if c.isDigit then some (c.toNat - '0'.toNat)
  else if 'a' ≤ c ∧ c ≤ 'f' then some (c.toNat - 'a'.toNat + 10)
  else if 'A' ≤ c ∧ c ≤ 'F' then some (c.toNat - 'A'.toNat + 10)
  else none

def hexValue? (digits : List Char) : Option Nat :=
  (digits.mapM hexDigit?).map fun digits => digits.foldl (fun value digit => 16 * value + digit) 0

/-- The number of hexadecimal digits of a unit, and so the bytes that it takes up. -/
def unitDigits : Nat := 4

def takeUnit (text : List Char) : Except Problem (Nat × List Char) :=
  if byteSize (text.take unitDigits) < unitDigits then .error .truncated
  else match hexValue? (text.take unitDigits) with
    | some unit => .ok (unit, text.drop unitDigits)
    | none => .error .malformed

def isLeading (unit : Nat) : Bool :=
  0xD800 ≤ unit && unit ≤ 0xDBFF

def isTrailing (unit : Nat) : Bool :=
  0xDC00 ≤ unit && unit ≤ 0xDFFF

def pairedChar (leading trailing : Nat) : Char :=
  Char.ofNat (0x10000 + (leading - 0xD800) * 0x400 + (trailing - 0xDC00))

def takeTrailing (leading : Nat) : List Char → Except Problem (Char × List Char)
  | [] => .error .truncated
  | '\\' :: [] => .error .truncated
  | '\\' :: 'u' :: text =>
    match takeUnit text with
    | .error problem => .error problem
    | .ok (trailing, rest) =>
      if isTrailing trailing then .ok (pairedChar leading trailing, rest) else .error .malformed
  | _ => .error .malformed

/-- Takes the character that an escape by code stands for. -/
def takeCoded (surrogates : Surrogates) (text : List Char) : Except Problem (Char × List Char) :=
  match takeUnit text with
  | .error problem => .error problem
  | .ok (unit, rest) =>
    if surrogates = .loose then .ok (Char.ofNat unit, rest)
    else if isTrailing unit then .error .malformed
    else if isLeading unit then takeTrailing unit rest
    else .ok (Char.ofNat unit, rest)

def namedEscape? (name : Char) : Option Char :=
  if name = '"' ∨ name = '\\' ∨ name = '/' then some name
  else if name = 'b' then some '\x08'
  else if name = 'f' then some '\x0c'
  else if name = 'n' then some '\n'
  else if name = 'r' then some '\r'
  else if name = 't' then some '\t'
  else none

/-- Takes the character that an escape stands for, after its backslash. -/
def takeEscape (surrogates : Surrogates) : List Char → Except Problem (Char × List Char)
  | [] => .error .truncated
  | name :: rest =>
    if name = 'u' then takeCoded surrogates rest
    else match namedEscape? name with
      | some c => .ok (c, rest)
      | none => .error .malformed

/-- Takes a character of a string, given its first sign. -/
def takeChar (surrogates : Surrogates) (first : Char) (rest : List Char) :
    Except Problem (Char × List Char) :=
  if first = '\\' then takeEscape surrogates rest
  else if first.toNat < 0x20 then .error .malformed
  else .ok (first, rest)

theorem length_takeUnit {text rest : List Char} {unit : Nat}
    (taken : takeUnit text = .ok (unit, rest)) : rest.length ≤ text.length := by
  unfold takeUnit at taken
  split at taken
  · cases taken
  · split at taken
    · cases taken
      simp
    · cases taken

theorem length_takeTrailing {leading : Nat} {text rest : List Char} {c : Char}
    (taken : takeTrailing leading text = .ok (c, rest)) : rest.length ≤ text.length := by
  unfold takeTrailing at taken
  split at taken
  · cases taken
  · cases taken
  · split at taken
    · cases taken
    next accepted =>
      have bound := length_takeUnit accepted
      split at taken
      · simp only [Except.ok.injEq, Prod.mk.injEq] at taken
        obtain ⟨-, rfl⟩ := taken
        exact Nat.le_trans bound (Nat.le_add_right _ 2)
      · cases taken
  · cases taken

theorem length_takeCoded {surrogates : Surrogates} {text rest : List Char} {c : Char}
    (taken : takeCoded surrogates text = .ok (c, rest)) : rest.length ≤ text.length := by
  unfold takeCoded at taken
  split at taken
  · cases taken
  next accepted =>
    have bound := length_takeUnit accepted
    split at taken
    · cases taken
      exact bound
    · split at taken
      · cases taken
      · split at taken
        · exact Nat.le_trans (length_takeTrailing taken) bound
        · cases taken
          exact bound

theorem length_takeEscape {surrogates : Surrogates} {text rest : List Char} {c : Char}
    (taken : takeEscape surrogates text = .ok (c, rest)) : rest.length ≤ text.length := by
  unfold takeEscape at taken
  split at taken
  · cases taken
  · split at taken
    · exact Nat.le_trans (length_takeCoded taken) (Nat.le_succ _)
    · split at taken <;> cases taken
      exact Nat.le_succ _

theorem length_takeChar {surrogates : Surrogates} {first c : Char} {text rest : List Char}
    (taken : takeChar surrogates first text = .ok (c, rest)) : rest.length ≤ text.length := by
  unfold takeChar at taken
  split at taken
  · exact length_takeEscape taken
  · split at taken <;> cases taken
    exact Nat.le_refl _

/-- Takes the characters of a string up to its closing quote. -/
def takeChars (surrogates : Surrogates) (text : List Char) :
    Except Problem (List Char × List Char) :=
  match text with
  | [] => .error .truncated
  | first :: rest =>
    if first = '"' then .ok ([], rest)
    else match _taken : takeChar surrogates first rest with
      | .error problem => .error problem
      | .ok (c, after) =>
        match takeChars surrogates after with
        | .error problem => .error problem
        | .ok (chars, last) => .ok (c :: chars, last)
termination_by text.length
decreasing_by
  have bound := length_takeChar _taken
  simp only [List.length_cons]
  omega

def takeQuoted : Reader String := fun text =>
  match takeChars .paired text with
  | .error problem => .error problem
  | .ok (chars, rest) => .ok (String.ofList chars, rest)

def skipQuoted (text : List Char) : Except Problem (List Char) :=
  match takeChars .loose text with
  | .error problem => .error problem
  | .ok (_, rest) => .ok rest

end BombMission.Json
