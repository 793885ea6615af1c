import BombMission.Text.Blank
import BombMission.Token.Basic

/-!
# Pool bodies

The body of a pool is a run of characters, quoted runs and separators. Between quotes every
character belongs to the body, and a quote that is never closed takes in the rest of the text. After
a separator, a comma or a plus sign, blanks belong to the body too. Otherwise a blank or a closing
bracket ends it.
-/

namespace BombMission

open Text

/-- Whether a character opens a quoted run, which the same character closes. -/
def isQuoteMark (c : Char) : Bool :=
  c = '\'' || c = '"'

def isSeparator (c : Char) : Bool :=
  c = ',' || c = '+'

/-- Where a reader of a pool body stands. -/
inductive BodyPosition where
  | plain
  /-- Behind a separator and perhaps blanks. -/
  | separated
  /-- Between quotes, with the mark that closes them. -/
  | quoted (mark : Char)
  deriving DecidableEq, Repr

/-- A pool body at the front of a text, the text after it, and whether a quote was left open. -/
structure BodySplit where
  spelling : List Char
  rest : List Char
  unclosedQuote : Bool
  deriving DecidableEq, Repr

/-- The split with one more character at the front of the body. -/
def BodySplit.cons (c : Char) (split : BodySplit) : BodySplit :=
  { split with spelling := c :: split.spelling }

/-- Where a reader stands after a character of the body outside quotes. -/
def BodyPosition.after (c : Char) : BodyPosition :=
  if isQuoteMark c then .quoted c else if isSeparator c then .separated else .plain

/-- Splits the pool body off the front of a text. -/
def splitBody : BodyPosition → List Char → BodySplit
  | .quoted _, [] => ⟨[], [], true⟩
  | _, [] => ⟨[], [], false⟩
  | .quoted mark, c :: text =>
    (splitBody (if c = mark then .plain else .quoted mark) text).cons c
  | .separated, c :: text =>
    -- blanks behind a separator belong to the list
    if isBlank c then (splitBody .separated text).cons c
    else if c = ')' then ⟨[], c :: text, false⟩
    else (splitBody (.after c) text).cons c
  | .plain, c :: text =>
    if isBlank c || c = ')' then ⟨[], c :: text, false⟩
    else (splitBody (.after c) text).cons c

/-- Pool text without quotes and without blanks on either side. -/
def bareBody (spelling : List Char) : String :=
  String.ofList (trimBlanks (spelling.filter fun c => !isQuoteMark c))

/-- Whether a body ends in the mark for distinct modules. The mark alone is not one, and there is
none behind a quote that was left open. -/
def BodySplit.endsUnique (split : BodySplit) : Bool :=
  !split.unclosedQuote && 1 < split.spelling.length && split.spelling.getLast? = some '!'

/-- The pool that a body and what stands before it make. -/
def BodySplit.pool (split : BodySplit) (count : Option Nat) (unique : Bool) : PoolText :=
  { body := bareBody (if split.endsUnique then split.spelling.dropLast else split.spelling)
    count
    unique := unique || split.endsUnique
    unclosedQuote := split.unclosedQuote }

/-- The body and the text after it make up the text. -/
theorem splitBody_append (position : BodyPosition) (text : List Char) :
    (splitBody position text).spelling ++ (splitBody position text).rest = text := by
  fun_induction splitBody position text <;> simp_all [BodySplit.cons]

/-- A quote is left open only at the end of the text. -/
theorem rest_of_unclosedQuote {position : BodyPosition} {text : List Char}
    (unclosed : (splitBody position text).unclosedQuote = true) :
    (splitBody position text).rest = [] := by
  fun_induction splitBody position text <;> simp_all [BodySplit.cons]

/-- A body takes in every character but a blank and a closing bracket. -/
theorem spelling_splitBody_plain_eq_nil {c : Char} {text : List Char} :
    (splitBody .plain (c :: text)).spelling = [] ↔ isBlank c = true ∨ c = ')' := by
  unfold splitBody
  split <;> simp_all [BodySplit.cons]

end BombMission
