import BombMission.Json.Problem

/-!
# Readers of JSON text

A reader takes a value off the front of a text and gives the text after it. This module holds what
all readers share: white space, the words `null`, `true` and `false`, and the end of the text.
-/

namespace BombMission.Json

abbrev Reader (α : Type) := List Char → Except Problem (α × List Char)

/-- Whether a character may stand between the parts of a value. -/
def isSpace (c : Char) : Bool :=
  c = ' ' || c = '\n' || c = '\t' || c = '\r'

def skipSpace (text : List Char) : List Char :=
  text.dropWhile isSpace

/-- Takes the rest of a word whose first letter decided that it is meant. -/
def takeWord : (word : List Char) → List Char → Except Problem (List Char)
  | [], text => .ok text
  | _ :: _, [] => .error .truncated
  | w :: word, c :: text => if c = w then takeWord word text else .error .malformed

def takeMark (mark : Char) (text : List Char) : Except Problem (List Char) :=
  match skipSpace text with
  | [] => .error .truncated
  | c :: rest => if c = mark then .ok rest else .error .malformed

/-- Reads a text that holds one value and nothing else. -/
def readWhole {α : Type} (read : Reader α) (text : String) : Except Problem α := do
  let (value, rest) ← read text.toList
  if (skipSpace rest).isEmpty then .ok value else .error .malformed

theorem skipSpace_of_not_isSpace {c : Char} {rest : List Char} (solid : isSpace c = false) :
    skipSpace (c :: rest) = c :: rest := by
  simp [skipSpace, solid]

end BombMission.Json
