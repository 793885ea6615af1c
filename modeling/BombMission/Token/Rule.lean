import BombMission.Clock
import BombMission.Text.AsciiCase
import BombMission.Token.PoolBody

/-!
# Token rules

Each rule takes one kind of token off the front of a text that starts neither with a blank nor with
a comment, or declines. `takeToken` tries them in order, and the first that accepts decides: `5:00`
is a time and never the id of a module, `3X` is a strike limit, and `widgets:3` a setting, although
all three would do as the body of a pool. A rule that accepts takes at least one character and
leaves a suffix of the text.
-/

namespace BombMission

open Text

/-- Takes a token off the front of a text, or declines. -/
abbrev TokenRule := List Char → Option (TokenKind × List Char)

namespace TokenRule

def close : TokenRule
  | ')' :: rest => some (.groupClose, rest)
  | _ => none

/-- A time that ends a word, with or without `time:` before it. -/
def time : TokenRule := fun text =>
  match Clock.read ((dropWordIgnoringCase "time:".toList text).getD text) with
  | some (seconds, rest) => if atWordEnd rest then some (.time seconds, rest) else none
  | none => none

/-- A short numeral and an `X` that ends a word. -/
def strikes : TokenRule := fun text =>
  match takeShortNumeral text with
  | some (limit, c :: rest) =>
    if (c = 'x' || c = 'X') && atWordEnd rest then some (.strikes limit, rest) else none
  | _ => none

/-- Whether a character belongs to the value of a setting. -/
def isValueChar (c : Char) : Bool :=
  !(isBlank c || c = ')')

/-- What follows a keyword: a value after a colon, or nothing. -/
def settingValue : List Char → Option String × List Char
  | ':' :: rest => (some (String.ofList (rest.takeWhile isValueChar)), rest.dropWhile isValueChar)
  | rest => (none, rest)

def setting : TokenRule := fun text =>
  SettingName.all.findSome? fun name =>
    (dropWordIgnoringCase name.keyword.toList text).map fun rest =>
      (.setting name (settingValue rest).1, (settingValue rest).2)

/-- A count before a group or a pool: a short numeral, perhaps the mark for distinct modules, and a
star or a semicolon with blanks around it. -/
def takeCount (text : List Char) : Option (Nat × Bool × List Char) :=
  match takeShortNumeral text with
  | none => none
  | some (count, rest) =>
    let (unique, rest) := match rest with
      | '!' :: rest => (true, rest)
      | _ => (false, rest)
    match skipBlanks rest with
    | [] => none
    | c :: rest => if c = ';' || c = '*' then some (count, unique, skipBlanks rest) else none

def pool (count : Option Nat) (unique : Bool) : TokenRule := fun text =>
  -- only a blank, a closing bracket or the end leaves an empty body
  let split := splitBody .plain text
  if split.spelling = [] then none else some (.pool (split.pool count unique), split.rest)

/-- An opening bracket or the body of a pool, behind a count or without one. -/
def groupOrPool (count : Option Nat) (unique : Bool) : TokenRule
  | '(' :: rest => some (.groupOpen count, rest)
  | text => pool count unique text

def counted : TokenRule := fun text =>
  match takeCount text with
  | none => none
  | some (count, unique, rest) => groupOrPool (some count) unique rest

end TokenRule

open TokenRule in
/-- The rules in the order in which they are tried. A count with neither a group nor a pool behind
it is the body of a pool itself. -/
def tokenRules : List TokenRule :=
  [close, time, strikes, setting, counted, groupOrPool none false]

/-- Takes a token off the front of a text by the first rule that accepts. -/
def takeToken : TokenRule := fun text =>
  tokenRules.findSome? fun rule => rule text

namespace TokenRule

/-- A rule leaves a suffix of the text and takes at least one character. -/
def Shortens (rule : TokenRule) : Prop :=
  ∀ text kind rest, rule text = some (kind, rest) → rest <:+ text ∧ rest.length < text.length

theorem close_shortens : Shortens close := by
  intro text kind rest accepted
  unfold close at accepted
  split at accepted
  · obtain ⟨-, rfl⟩ := by simpa using accepted
    exact ⟨List.suffix_cons _ _, by simp⟩
  · cases accepted

theorem time_shortens : Shortens time := by
  intro text kind rest accepted
  unfold time at accepted
  split at accepted
  next seconds left found =>
    have written : (dropWordIgnoringCase "time:".toList text).getD text <:+ text := by
      cases word : dropWordIgnoringCase "time:".toList text with
      | none => exact List.suffix_refl _
      | some after => exact dropWordIgnoringCase_suffix word
    have shorter := Clock.length_read found
    have suffix := Clock.read_suffix found
    have bound := written.length_le
    split at accepted
    · obtain ⟨-, rfl⟩ := by simpa using accepted
      exact ⟨suffix.trans written, by omega⟩
    · cases accepted
  · cases accepted

theorem strikes_shortens : Shortens strikes := by
  intro text kind rest accepted
  unfold strikes at accepted
  split at accepted
  next limit c left found =>
    have suffix := takeShortNumeral_suffix found
    have shorter := length_takeShortNumeral found
    split at accepted
    · obtain ⟨-, rfl⟩ := by simpa using accepted
      exact ⟨(List.suffix_cons _ _).trans suffix, by simp only [List.length_cons] at shorter; omega⟩
    · cases accepted
  · cases accepted

theorem settingValue_suffix (text : List Char) : (settingValue text).2 <:+ text := by
  unfold settingValue
  split
  · exact (List.dropWhile_suffix _).trans (List.suffix_cons _ _)
  · exact List.suffix_refl _

theorem keyword_ne_nil (name : SettingName) : 0 < name.keyword.toList.length := by
  cases name <;> decide

theorem setting_shortens : Shortens setting := by
  intro text kind rest accepted
  obtain ⟨name, -, found⟩ := List.exists_of_findSome?_eq_some accepted
  obtain ⟨after, word, made⟩ := Option.map_eq_some_iff.1 found
  have suffix := settingValue_suffix after
  have shorter := length_dropWordIgnoringCase word
  have nonempty := keyword_ne_nil name
  have bound := suffix.length_le
  obtain ⟨-, rfl⟩ := Prod.mk.inj made
  exact ⟨suffix.trans (dropWordIgnoringCase_suffix word), by omega⟩

theorem pool_shortens (count : Option Nat) (unique : Bool) : Shortens (pool count unique) := by
  intro text kind rest accepted
  simp only [pool, Option.ite_none_left_eq_some, Option.some.injEq, Prod.mk.injEq] at accepted
  obtain ⟨taken, -, rfl⟩ := accepted
  have whole := splitBody_append .plain text
  have size := congrArg List.length whole
  have nonempty := List.length_pos_iff.2 taken
  rw [List.length_append] at size
  exact ⟨⟨_, whole⟩, by omega⟩

theorem groupOrPool_shortens (count : Option Nat) (unique : Bool) :
    Shortens (groupOrPool count unique) := by
  intro text kind rest accepted
  unfold groupOrPool at accepted
  split at accepted
  · obtain ⟨-, rfl⟩ := by simpa using accepted
    exact ⟨List.suffix_cons _ _, by simp⟩
  · exact pool_shortens count unique _ _ _ accepted

theorem takeCount_shortens {text rest : List Char} {count : Nat} {unique : Bool}
    (taken : takeCount text = some (count, unique, rest)) :
    rest <:+ text ∧ rest.length < text.length := by
  unfold takeCount at taken
  split at taken
  · cases taken
  next n after found =>
    have suffix := takeShortNumeral_suffix found
    have shorter := length_takeShortNumeral found
    have marked : (match after with
        | '!' :: rest => (true, rest)
        | _ => (false, after)).2 <:+ after := by
      split
      · exact List.suffix_cons _ _
      · exact List.suffix_refl _
    dsimp only at taken
    split at taken
    · cases taken
    next c left blanks =>
      have stripped := (skipBlanks_suffix _).trans marked
      rw [blanks] at stripped
      have behind := (skipBlanks_suffix left).trans ((List.suffix_cons c left).trans stripped)
      split at taken
      · obtain ⟨-, -, rfl⟩ := by simpa using taken
        have bound := behind.length_le
        exact ⟨behind.trans suffix, by omega⟩
      · cases taken

theorem counted_shortens : Shortens counted := by
  intro text kind rest accepted
  unfold counted at accepted
  split at accepted
  · cases accepted
  next found =>
    have first := takeCount_shortens found
    have second := groupOrPool_shortens _ _ _ _ _ accepted
    exact ⟨second.1.trans first.1, by omega⟩

end TokenRule

open TokenRule in
theorem takeToken_shortens : takeToken.Shortens := by
  intro text kind rest accepted
  obtain ⟨rule, member, found⟩ := List.exists_of_findSome?_eq_some accepted
  have each : ∀ rule ∈ tokenRules, Shortens rule := by
    simp [tokenRules, close_shortens, time_shortens, strikes_shortens, setting_shortens,
      counted_shortens, groupOrPool_shortens]
  exact each rule member text kind rest found

end BombMission
