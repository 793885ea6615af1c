import BombMission.Text.Blank

/-!
# Splitting text

`splitOn isMark text` cuts a text at every character that satisfies `isMark`, which leaves one piece
more than there are such characters; an empty text is one empty piece. `lines` is the view of a
message as rows of a report: rows end with a newline, a carriage return before it belongs to it, and
a newline at the very end starts no further row.
-/

namespace BombMission.Text

/-- The pieces between the characters that satisfy `isMark`. -/
def splitOn (isMark : Char → Bool) : List Char → List (List Char)
  | [] => [[]]
  | c :: text =>
    if isMark c then [] :: splitOn isMark text
    else match splitOn isMark text with
      | [] => [[c]]
      | piece :: pieces => (c :: piece) :: pieces

def dropReturn (row : List Char) : List Char :=
  if row.getLast? = some '\r' then row.dropLast else row

/-- The rows among the pieces of a text cut at its newlines. -/
def rowsOfPieces : List (List Char) → List (List Char)
  | [] => []
  | [last] => if last.isEmpty then [] else [last]
  | row :: piece :: pieces => dropReturn row :: rowsOfPieces (piece :: pieces)

def lines (text : String) : List String :=
  (rowsOfPieces (splitOn (· == '\n') text.toList)).map String.ofList

theorem length_splitOn (isMark : Char → Bool) (text : List Char) :
    (splitOn isMark text).length = text.countP isMark + 1 := by
  induction text with
  | nil => rfl
  | cons c text ih =>
    by_cases mark : isMark c = true
    · simp [splitOn, mark, ih]
    · simp only [splitOn, mark, Bool.false_eq_true, if_false, List.countP_cons]
      split <;> simp_all

theorem splitOn_of_forall_not {isMark : Char → Bool} {text : List Char}
    (unmarked : ∀ c ∈ text, isMark c = false) : splitOn isMark text = [text] := by
  induction text with
  | nil => rfl
  | cons c text ih =>
    simp only [List.mem_cons, forall_eq_or_imp] at unmarked
    simp [splitOn, unmarked.1, ih unmarked.2]

end BombMission.Text
