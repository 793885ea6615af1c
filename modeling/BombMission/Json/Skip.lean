import BombMission.Json.Number
import BombMission.Json.Quoted

/-!
# Skipping JSON values

A value under an unknown key is skipped. It has to follow the rules of JSON, but nothing is asked of
the size of its numbers or of the surrogates in its strings. Skipping goes sign by sign with the
open brackets on a stack, so values may be nested to any depth.
-/

namespace BombMission.Json

inductive Bracket where
  | list
  | record
  deriving DecidableEq, Repr

inductive Expected where
  | value
  /-- The first item of a list, or its end. -/
  | firstItem
  /-- The first key of a record, or its end. -/
  | firstKey
  | key
  /-- A comma or the end of what is open. -/
  | separator
  deriving DecidableEq, Repr

/-- What is open, what comes next and the text in front. -/
structure SkipState where
  brackets : List Bracket
  expected : Expected
  text : List Char

/-- Skips a value that is no list and no record, given its first sign. -/
def skipScalar (first : Char) (rest : List Char) : Except Problem (List Char) :=
  if first = '"' then skipQuoted rest
  else if first = '-' then skipNumber rest
  else if first.isDigit then skipNumber (first :: rest)
  else if first = 'n' then takeWord "ull".toList rest
  else if first = 't' then takeWord "rue".toList rest
  else if first = 'f' then takeWord "alse".toList rest
  else .error .malformed

namespace SkipState

def atValue (brackets : List Bracket) (first : Char) (rest : List Char) :
    Except Problem SkipState :=
  if first = '[' then .ok ⟨.list :: brackets, .firstItem, rest⟩
  else if first = '\x7b' then .ok ⟨.record :: brackets, .firstKey, rest⟩
  else
    match skipScalar first rest with
    | .error problem => .error problem
    | .ok rest => .ok ⟨brackets, .separator, rest⟩

def atKey (brackets : List Bracket) (first : Char) (rest : List Char) :
    Except Problem SkipState := do
  if first ≠ '"' then .error .malformed
  let rest ← skipQuoted rest
  let rest ← takeMark ':' rest
  .ok ⟨brackets, .value, rest⟩

def atSeparator : (brackets : List Bracket) → (first : Char) → (rest : List Char) →
    Except Problem SkipState
  | .list :: brackets, ']', rest => .ok ⟨brackets, .separator, rest⟩
  | .list :: brackets, ',', rest => .ok ⟨.list :: brackets, .value, rest⟩
  | .record :: brackets, '\x7d', rest => .ok ⟨brackets, .separator, rest⟩
  | .record :: brackets, ',', rest => .ok ⟨.record :: brackets, .key, rest⟩
  | _, _, _ => .error .malformed

def step (brackets : List Bracket) (expected : Expected) (first : Char) (rest : List Char) :
    Except Problem SkipState :=
  match expected with
  | .value => atValue brackets first rest
  | .firstItem =>
    if first = ']' then atSeparator brackets first rest else atValue brackets first rest
  | .firstKey =>
    if first = '\x7d' then atSeparator brackets first rest else atKey brackets first rest
  | .key => atKey brackets first rest
  | .separator => atSeparator brackets first rest

/-- Goes on until nothing is open, for at most so many signs. -/
def run : (signs : Nat) → SkipState → Except Problem (List Char)
  | 0, _ => .error .truncated
  | signs + 1, state =>
    if state.brackets = [] ∧ state.expected = .separator then .ok state.text
    else
      match skipSpace state.text with
      | [] => .error .truncated
      | first :: rest =>
        match step state.brackets state.expected first rest with
        | .error problem => .error problem
        | .ok state => run signs state

end SkipState

def skipValue (text : List Char) : Except Problem (List Char) :=
  -- every step but the last, which only finds nothing open, takes a sign off the text
  SkipState.run (text.length + 1) ⟨[], .value, text⟩

end BombMission.Json
