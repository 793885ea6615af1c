import BombMission.Json.Number
import BombMission.Json.Quoted

/-!
# Readers of one kind of value

Each reader here wants a value of one kind. Where a well-formed value of another kind stands, the
problem says what was found; a list or a record is told by its bracket alone, and anything else is
read to its end first, so that a broken value is reported as such.
-/

namespace BombMission.Json

/-- What a value is, given its first sign. -/
def readFound (first : Char) (rest : List Char) : Except Problem Found := do
  if first = 'n' then
    let _ ← takeWord "ull".toList rest
    .ok .null
  else if first = 't' then
    let _ ← takeWord "rue".toList rest
    .ok (.boolean true)
  else if first = 'f' then
    let _ ← takeWord "alse".toList rest
    .ok (.boolean false)
  else if first = '-' then
    let (value, _) ← takeNumber true rest
    .ok (.number value)
  else if first.isDigit then
    let (value, _) ← takeNumber false (first :: rest)
    .ok (.number value)
  else if first = '"' then
    let (value, _) ← takeQuoted rest
    .ok (.string value)
  else if first = '[' then .ok .list
  else if first = '\x7b' then .ok .record
  else .error .malformed

/-- The problem with a value of the wrong kind, given its first sign. -/
def wrongKind (wanted : String) (first : Char) (rest : List Char) : Problem :=
  match readFound first rest with
  | .error problem => problem
  | .ok found => .mismatch (.wrongKind found wanted)

def readText : Reader String := fun text =>
  match skipSpace text with
  | [] => .error .truncated
  | first :: rest =>
    if first = '"' then takeQuoted rest else .error (wrongKind "a string" first rest)

/-- What a number from 0 to 255 is called. -/
def byteKind : String := "u8"

def Number.toByte : Number → Except Problem Nat
  | natural value =>
    if value < 256 then .ok value else .error (.mismatch (.outOfRange (natural value) byteKind))
  | negative value => .error (.mismatch (.outOfRange (negative value) byteKind))
  | floating value => .error (.mismatch (.wrongKind (.number (floating value)) byteKind))

def readByte : Reader Nat := fun text =>
  match skipSpace text with
  | [] => .error .truncated
  | first :: rest =>
    if first = '-' ∨ first.isDigit then do
      let (value, rest) ←
        if first = '-' then takeNumber true rest else takeNumber false (first :: rest)
      let byte ← value.toByte
      .ok (byte, rest)
    else .error (wrongKind byteKind first rest)

def readOptional {α : Type} (read : Reader α) : Reader (Option α) := fun text =>
  match skipSpace text with
  | 'n' :: rest => do
    let rest ← takeWord "ull".toList rest
    .ok (none, rest)
  | text => do
    let (value, rest) ← read text
    .ok (some value, rest)

/-- Takes the space and the comma before a further item, or says that a list is over. `first` holds
before its first item, which has no comma. -/
def takeItemStart (first : Bool) (text : List Char) : Except Problem (Bool × List Char) :=
  match skipSpace text with
  | [] => .error .truncated
  | ']' :: rest => .ok (false, ']' :: rest)
  | c :: rest =>
    if first then .ok (true, c :: rest)
    else if c = ',' then
      match skipSpace rest with
      | [] => .error .truncated
      | ']' :: _ => .error .malformed
      | rest => .ok (true, rest)
    else .error .malformed

/-- Reads the items of a list up to its closing bracket, at most so many. -/
def readItems {α : Type} (read : Reader α) : (most : Nat) → (first : Bool) → Reader (List α)
  | 0, _, _ => .error .truncated
  | most + 1, first, text => do
    let (more, text) ← takeItemStart first text
    if more then
      let (item, text) ← read text
      let (items, text) ← readItems read most false text
      .ok (item :: items, text)
    else .ok ([], text.drop 1)

/-- Reads a list. Its items take up a sign each at least. -/
def readList {α : Type} (read : Reader α) : Reader (List α) := fun text =>
  match skipSpace text with
  | [] => .error .truncated
  | first :: rest =>
    if first = '[' then readItems read (rest.length + 1) true rest
    else .error (wrongKind "a sequence" first rest)

end BombMission.Json
