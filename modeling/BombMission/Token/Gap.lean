import BombMission.Text.Blank

/-!
# Gaps between tokens

Blanks and comments may stand between tokens. A comment runs from `//` to the end of the line, or
from `/*` to the first `*/` after it; one that is never closed takes in the rest of the text.
`skipGap` drops all of them from the front of a text, and what it leaves starts with a token if it
is not empty.
-/

namespace BombMission

open Text

def afterLineComment (text : List Char) : List Char :=
  text.dropWhile (· ≠ '\n')

def afterBlockComment : List Char → List Char
  | [] => []
  | '*' :: '/' :: rest => rest
  | _ :: rest => afterBlockComment rest

theorem afterLineComment_suffix (text : List Char) : afterLineComment text <:+ text :=
  List.dropWhile_suffix _

theorem afterBlockComment_suffix (text : List Char) : afterBlockComment text <:+ text := by
  fun_induction afterBlockComment text with
  | case1 => exact List.suffix_refl _
  | case2 rest => exact ⟨['*', '/'], rfl⟩
  | case3 c rest _ ih => exact ih.trans (List.suffix_cons c rest)

/-- The text after the blanks and comments at its front. -/
def skipGap : List Char → List Char
  | [] => []
  | '/' :: '/' :: rest => skipGap (afterLineComment rest)
  | '/' :: '*' :: rest => skipGap (afterBlockComment rest)
  | c :: rest => if isBlank c then skipGap rest else c :: rest
termination_by text => text.length
decreasing_by
  · have := (afterLineComment_suffix rest).length_le
    simp only [List.length_cons]
    omega
  · have := (afterBlockComment_suffix rest).length_le
    simp only [List.length_cons]
    omega
  · simp

theorem skipGap_suffix (text : List Char) : skipGap text <:+ text := by
  fun_induction skipGap text with
  | case1 => exact List.suffix_refl _
  | case2 rest ih =>
    exact ih.trans ((afterLineComment_suffix rest).trans ⟨['/', '/'], rfl⟩)
  | case3 rest ih =>
    exact ih.trans ((afterBlockComment_suffix rest).trans ⟨['/', '*'], rfl⟩)
  | case4 c rest _ _ _ ih => exact ih.trans (List.suffix_cons c rest)
  | case5 => exact List.suffix_refl _

/-- What follows a gap does not start with a blank. -/
theorem isBlank_head_skipGap {text rest : List Char} {c : Char} (left : skipGap text = c :: rest) :
    isBlank c = false := by
  fun_induction skipGap text with
  | case1 => simp at left
  | case2 rest ih => exact ih left
  | case3 rest ih => exact ih left
  | case4 c rest _ _ _ ih => exact ih left
  | case5 => simp_all

end BombMission
