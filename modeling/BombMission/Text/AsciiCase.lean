/-!
# Comparing words without regard to ASCII case

Keywords of a mission are recognised in any case of their ASCII letters. No other character has a
case here: a long s or a Kelvin sign is not a letter of any keyword.
-/

namespace BombMission.Text

/-- The text after `word`, when the text starts with it up to ASCII case. -/
def dropWordIgnoringCase : (word text : List Char) → Option (List Char)
  | [], text => some text
  | _ :: _, [] => none
  | w :: word, c :: text =>
    if c.toLower = w.toLower then dropWordIgnoringCase word text else none

def equalIgnoringCase (left right : String) : Bool :=
  left.toList.map Char.toLower == right.toList.map Char.toLower

theorem dropWordIgnoringCase_suffix {word text rest : List Char}
    (found : dropWordIgnoringCase word text = some rest) : rest <:+ text := by
  fun_induction dropWordIgnoringCase word text with
  | case1 => simp_all
  | case2 => simp at found
  | case3 w word c text _ ih => exact (ih found).trans (List.suffix_cons c text)
  | case4 => simp at found

theorem length_dropWordIgnoringCase {word text rest : List Char}
    (found : dropWordIgnoringCase word text = some rest) :
    rest.length + word.length = text.length := by
  fun_induction dropWordIgnoringCase word text with
  | case1 => simp_all
  | case2 => simp at found
  | case3 w word c text _ ih => simp only [List.length_cons, ← ih found]; omega
  | case4 => simp at found

end BombMission.Text
