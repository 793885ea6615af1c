import BombMission.Text.ByteSize
import BombMission.Token.Gap
import BombMission.Token.Rule

/-!
# Scanning mission text

`Lexeme.scan` cuts a text into lexemes, each a token with its spelling and the gap before it.
Scanning never stops before the end: a character that is neither a blank nor the start of a comment
starts some token. The spans of `scanTokens` are the running sums of the sizes of the lexemes.
-/

namespace BombMission

open Text

/-- A token in its place: the gap before it and the characters it is written with. -/
structure Lexeme where
  gap : List Char
  spelling : List Char
  kind : TokenKind
  deriving DecidableEq, Repr

/-- What is left of `text` once the suffix `rest` is taken from its end. -/
def dropSuffix (text rest : List Char) : List Char :=
  text.take (text.length - rest.length)

theorem dropSuffix_append {text rest : List Char} (suffix : rest <:+ text) :
    dropSuffix text rest ++ rest = text :=
  List.suffix_iff_eq_append.1 suffix

namespace Lexeme

def scan (text : List Char) : List Lexeme :=
  match _accepted : takeToken (skipGap text) with
  | none => []
  | some (kind, rest) =>
    { gap := dropSuffix text (skipGap text)
      spelling := dropSuffix (skipGap text) rest
      kind } :: scan rest
termination_by text.length
decreasing_by
  have shorter := (takeToken_shortens _ _ _ _accepted).2
  have bound := (skipGap_suffix text).length_le
  omega

theorem scan_of_none {text : List Char} (declined : takeToken (skipGap text) = none) :
    scan text = [] := by
  rw [scan]
  split <;> simp_all

theorem scan_of_some {text rest : List Char} {kind : TokenKind}
    (accepted : takeToken (skipGap text) = some (kind, rest)) :
    scan text = { gap := dropSuffix text (skipGap text)
                  spelling := dropSuffix (skipGap text) rest
                  kind } :: scan rest := by
  rw [scan]
  split <;> simp_all

/-- Only the end of the text is declined once the gap before it is skipped. -/
theorem takeToken_skipGap_eq_none_iff {text : List Char} :
    takeToken (skipGap text) = none ↔ skipGap text = [] := by
  constructor
  · intro declined
    cases left : skipGap text with
    | nil => rfl
    | cons c rest =>
      have notBlank := isBlank_head_skipGap left
      rw [left] at declined
      have each := List.findSome?_eq_none_iff.1 declined
      have closes := each TokenRule.close (by simp [tokenRules])
      have pools := each (TokenRule.groupOrPool none false) (by simp [tokenRules])
      by_cases closing : c = ')'
      · subst closing
        cases closes
      · have nonempty : (splitBody .plain (c :: rest)).spelling ≠ [] := by
          simp [spelling_splitBody_plain_eq_nil, notBlank, closing]
        unfold TokenRule.groupOrPool at pools
        split at pools
        · cases pools
        · simp [TokenRule.pool, nonempty] at pools
  · intro ended
    rw [ended]
    decide +kernel

/-- The tokens that lexemes make when the text before them takes up `start` bytes. -/
def tokens (start : Nat) : List Lexeme → List Token
  | [] => []
  | lexeme :: rest =>
    let first := start + byteSize lexeme.gap
    let last := first + byteSize lexeme.spelling
    { kind := lexeme.kind
      start := first
      stop := last
      spelling := String.ofList lexeme.spelling } :: tokens last rest

end Lexeme

def scanTokens (text : String) : List Token :=
  Lexeme.tokens 0 (Lexeme.scan text.toList)

end BombMission
