import BombMission.Text.Numeral

/-!
# Clock notation

A time limit is written as minutes and seconds, or as hours, minutes and seconds, between colons.
`Clock.read` takes such a time off the front of a text; fields may exceed sixty, as in `90:00`.
`Clock.render` writes a number of seconds with fields below sixty, and the hours only when there are
some.
-/

namespace BombMission.Clock

open Text

/-- A colon and the short numeral after it. -/
def takeField : List Char → Option (Nat × List Char)
  | ':' :: rest => takeShortNumeral rest
  | _ => none

/-- The seconds of the time at the front of the text, and the text after it. -/
def read (text : List Char) : Option (Nat × List Char) :=
  match takeShortNumeral text with
  | none => none
  | some (first, rest) =>
    match takeField rest with
    | none => none
    | some (second, rest) =>
      match takeField rest with
      | none => some (60 * first + second, rest)
      | some (third, rest) => some (3600 * first + 60 * second + third, rest)

def twoDigits (n : Nat) : String :=
  if n < 10 then "0" ++ toString n else toString n

def render (seconds : Nat) : String :=
  let hours := seconds / 3600
  let minutes := seconds / 60 % 60
  let rest := seconds % 60
  if hours = 0 then toString minutes ++ ":" ++ twoDigits rest
  else toString hours ++ ":" ++ twoDigits minutes ++ ":" ++ twoDigits rest

theorem takeField_suffix {text rest : List Char} {n : Nat}
    (taken : takeField text = some (n, rest)) : rest <:+ text := by
  unfold takeField at taken
  split at taken
  · exact (takeShortNumeral_suffix taken).trans (List.suffix_cons _ _)
  · cases taken

theorem read_suffix {text rest : List Char} {seconds : Nat}
    (taken : read text = some (seconds, rest)) : rest <:+ text := by
  unfold read at taken
  split at taken
  · cases taken
  next first =>
    split at taken
    · cases taken
    next second =>
      have two := (takeField_suffix second).trans (takeShortNumeral_suffix first)
      split at taken
      · simp_all
      next third =>
        simp only [Option.some.injEq, Prod.mk.injEq] at taken
        exact taken.2 ▸ (takeField_suffix third).trans two

theorem length_read {text rest : List Char} {seconds : Nat}
    (taken : read text = some (seconds, rest)) : rest.length < text.length := by
  unfold read at taken
  split at taken
  · cases taken
  next first =>
    have shorter := length_takeShortNumeral first
    split at taken
    · cases taken
    next second =>
      have two := (takeField_suffix second).length_le
      split at taken
      · obtain ⟨_, rfl⟩ := by simpa using taken
        omega
      next third =>
        obtain ⟨_, rfl⟩ := by simpa using taken
        have three := (takeField_suffix third).length_le
        omega

end BombMission.Clock
