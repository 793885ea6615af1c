/-!
# Blank characters

Mission text separates its tokens by blank characters: those with the Unicode property White_Space.
`skipBlanks` and `trim` remove runs of them, so what `skipBlanks` leaves starts with a character
that is not blank.
-/

namespace BombMission.Text

/-- Whether a character has the Unicode property White_Space. -/
def isBlank (c : Char) : Bool :=
  let code := c.toNat
  (0x9 ≤ code && code ≤ 0xD) || code == 0x20 || code == 0x85 || code == 0xA0 || code == 0x1680 ||
  (0x2000 ≤ code && code ≤ 0x200A) || code == 0x2028 || code == 0x2029 || code == 0x202F ||
  code == 0x205F || code == 0x3000

def skipBlanks (text : List Char) : List Char :=
  text.dropWhile isBlank

def trimBlanks (text : List Char) : List Char :=
  (skipBlanks (skipBlanks text).reverse).reverse

def trim (text : String) : String :=
  String.ofList (trimBlanks text.toList)

def isBlankText (text : String) : Bool :=
  text.toList.all isBlank

/-- Whether a word ends before this text: the text is over or goes on with a blank. -/
def atWordEnd : List Char → Bool
  | [] => true
  | c :: _ => isBlank c

theorem skipBlanks_suffix (text : List Char) : skipBlanks text <:+ text :=
  List.dropWhile_suffix _

theorem head_skipBlanks {text rest : List Char} {c : Char} (left : skipBlanks text = c :: rest) :
    isBlank c = false := by
  induction text with
  | nil => simp [skipBlanks] at left
  | cons d text ih =>
    by_cases blank : isBlank d = true
    · exact ih (by simpa [skipBlanks, blank] using left)
    · simp [skipBlanks, blank] at left
      simp_all

end BombMission.Text
