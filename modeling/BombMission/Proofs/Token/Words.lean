import BombMission.Proofs.Token.Reaches

/-!
# Scanning on machine words

On a machine numbers have a size. A count and a strike limit are words of 32 bits, the seconds of a
time are computed on 64, and a group of digits that does not fit its word cannot be parsed. Here the
scanner is written once more on such words: it breaks off with an error wherever a number does not
fit. A short numeral has nine digits at most, so this never happens, whatever the text.

## Main results

* `Words.takeToken_eq`: a token is taken off a text on words as it is on numbers.
* `Words.scan_eq`: the same of all tokens of a text.
* `length_scanTokens_le` and `bounded_scanTokens`: a text has no more tokens than bytes, and the
  numbers of a token are no greater than nine digits can make them.
-/

namespace BombMission

open Text

/-- Why a computation on words breaks off. -/
inductive WordError where
  /-- No word of its size holds what the digits say. -/
  | badNumeral (digits : List Char)
  | overflow (value : Nat)
  deriving DecidableEq, Repr

/-- The largest number that fits a 64-bit word. -/
def maxLongWord : Nat := 0xFFFFFFFFFFFFFFFF

namespace Words

/-- The result of an operation on 64-bit words, when it fits one. -/
def longWord (value : Nat) : Except WordError Nat :=
  if value ≤ maxLongWord then .ok value else .error (.overflow value)

/-- Parses a group of digits into a word that holds numbers up to `limit`. -/
def parse (limit : Nat) (digits : List Char) : Except WordError Nat :=
  match readDigits limit digits with
  | some n => .ok n
  | none => .error (.badNumeral digits)

theorem longWord_of_le {value : Nat} (fits : value ≤ maxLongWord) : longWord value = .ok value :=
  if_pos fits

@[simp] theorem ok_bind {α β : Type} (a : α) (f : α → Except WordError β) :
    (Except.ok a >>= f) = f a := rfl

/-! ### Numerals and times -/

def takeShortNumeral (limit : Nat) (text : List Char) :
    Except WordError (Option (Nat × List Char)) :=
  let digits := text.takeWhile Char.isDigit
  if 1 ≤ digits.length ∧ digits.length ≤ 9 then do
    let n ← parse limit digits
    return some (n, text.dropWhile Char.isDigit)
  else return none

def takeField : List Char → Except WordError (Option (Nat × List Char))
  | ':' :: rest => takeShortNumeral maxLongWord rest
  | _ => return none

/-- The seconds of a time of two fields. -/
def minuteSeconds (first second : Nat) : Except WordError Nat := do
  let minutes ← longWord (first * 60)
  longWord (minutes + second)

/-- The seconds of a time of three fields. -/
def hourSeconds (first second third : Nat) : Except WordError Nat := do
  let hours ← longWord (first * 3600)
  let minutes ← longWord (second * 60)
  let sum ← longWord (hours + minutes)
  longWord (sum + third)

def readClock (text : List Char) : Except WordError (Option (Nat × List Char)) := do
  match ← takeShortNumeral maxLongWord text with
  | none => return none
  | some (first, rest) =>
    match ← takeField rest with
    | none => return none
    | some (second, rest) =>
      match ← takeField rest with
      | none => return some (← minuteSeconds first second, rest)
      | some (third, rest) => return some (← hourSeconds first second third, rest)

theorem takeShortNumeral_eq {limit : Nat} (large : 999999999 ≤ limit) (text : List Char) :
    takeShortNumeral limit text = .ok (Text.takeShortNumeral text) := by
  simp only [takeShortNumeral, Text.takeShortNumeral]
  split
  next few =>
    have numeral : IsShortNumeral (text.takeWhile Char.isDigit)
        (digitsValue (text.takeWhile Char.isDigit)) :=
      ⟨(IsRun.takeWhile Char.isDigit text).inside, few.1, few.2, rfl⟩
    rw [parse, numeral.readDigits large]
    rfl
  · rfl

theorem takeField_eq (text : List Char) : takeField text = .ok (Clock.takeField text) := by
  cases text with
  | nil => rfl
  | cons c rest =>
    by_cases colon : c = ':'
    · subst colon
      exact takeShortNumeral_eq (by decide) rest
    · simp [takeField, Clock.takeField, colon, pure, Except.pure]

theorem minuteSeconds_eq {first second : Nat} (few : first ≤ 999999999 ∧ second ≤ 999999999) :
    minuteSeconds first second = .ok (60 * first + second) := by
  have long : maxLongWord = 18446744073709551615 := rfl
  rw [minuteSeconds, longWord_of_le (by omega), ok_bind, longWord_of_le (by omega), Nat.mul_comm]

theorem hourSeconds_eq {first second third : Nat}
    (few : first ≤ 999999999 ∧ second ≤ 999999999 ∧ third ≤ 999999999) :
    hourSeconds first second third = .ok (3600 * first + 60 * second + third) := by
  have long : maxLongWord = 18446744073709551615 := rfl
  rw [hourSeconds, longWord_of_le (by omega), ok_bind, longWord_of_le (by omega), ok_bind,
    longWord_of_le (by omega), ok_bind, longWord_of_le (by omega), Nat.mul_comm first,
    Nat.mul_comm second]

theorem le_of_takeShortNumeral {text rest : List Char} {n : Nat}
    (taken : Text.takeShortNumeral text = some (n, rest)) : n ≤ 999999999 := by
  obtain ⟨digits, -, numeral, -⟩ := takeShortNumeral_eq_some_iff.1 taken
  exact numeral.le

theorem le_of_takeField {text rest : List Char} {n : Nat}
    (taken : Clock.takeField text = some (n, rest)) : n ≤ 999999999 := by
  obtain ⟨digits, -, numeral, -⟩ := takeField_eq_some_iff.1 taken
  exact numeral.le

theorem readClock_eq (text : List Char) : readClock text = .ok (Clock.read text) := by
  rw [readClock, Clock.read, takeShortNumeral_eq (by decide), ok_bind]
  cases one : Text.takeShortNumeral text with
  | none => rfl
  | some taken =>
    obtain ⟨first, rest⟩ := taken
    dsimp only
    rw [takeField_eq, ok_bind]
    cases two : Clock.takeField rest with
    | none => rfl
    | some taken =>
      obtain ⟨second, rest⟩ := taken
      dsimp only
      rw [takeField_eq, ok_bind]
      cases three : Clock.takeField rest with
      | none =>
        dsimp only
        rw [minuteSeconds_eq ⟨le_of_takeShortNumeral one, le_of_takeField two⟩]
        rfl
      | some taken =>
        obtain ⟨third, rest⟩ := taken
        dsimp only
        rw [hourSeconds_eq ⟨le_of_takeShortNumeral one, le_of_takeField two, le_of_takeField three⟩]
        rfl

/-! ### Rules -/

/-- Takes a token off the front of a text on words. -/
abbrev Rule := List Char → Except WordError (Option (TokenKind × List Char))

/-- A rule that computes nothing. -/
def plainRule (rule : TokenRule) : Rule := fun text => return rule text

def time : Rule := fun text => do
  match ← readClock ((dropWordIgnoringCase "time:".toList text).getD text) with
  | some (seconds, rest) => return if atWordEnd rest then some (.time seconds, rest) else none
  | none => return none

def strikes : Rule := fun text => do
  match ← takeShortNumeral maxWord text with
  | some (limit, c :: rest) =>
    return if (c = 'x' || c = 'X') && atWordEnd rest then some (.strikes limit, rest) else none
  | _ => return none

def takeCount (text : List Char) : Except WordError (Option (Nat × Bool × List Char)) := do
  match ← takeShortNumeral maxWord text with
  | none => return none
  | some (count, rest) =>
    match skipBlanks (takeMark rest).2 with
    | [] => return none
    | c :: behind =>
      return if c = ';' || c = '*' then some (count, (takeMark rest).1, skipBlanks behind) else none

def counted : Rule := fun text => do
  match ← takeCount text with
  | none => return none
  | some (count, unique, rest) => return TokenRule.groupOrPool (some count) unique rest

/-- The rules of the scanner on words, in the order in which they are tried. -/
def rules : List Rule :=
  [plainRule .close, time, strikes, plainRule .setting, counted,
    plainRule (.groupOrPool none false)]

def takeToken : Rule := fun text => rules.findSomeM? fun rule => rule text

/-- A rule on words that never breaks off and accepts what a rule of the scanner does. -/
def Runs (rule : Rule) (scanner : TokenRule) : Prop :=
  ∀ text, rule text = .ok (scanner text)

theorem plainRule_runs (rule : TokenRule) : Runs (plainRule rule) rule := fun _ => rfl

theorem time_runs : Runs time .time := by
  intro text
  rw [time, TokenRule.time, readClock_eq, ok_bind]
  cases Clock.read ((dropWordIgnoringCase "time:".toList text).getD text) <;> rfl

theorem strikes_runs : Runs strikes .strikes := by
  intro text
  rw [strikes, TokenRule.strikes, takeShortNumeral_eq (by decide), ok_bind]
  rcases Text.takeShortNumeral text with _ | ⟨limit, _ | ⟨c, rest⟩⟩ <;> rfl

theorem takeCount_eq (text : List Char) : takeCount text = .ok (TokenRule.takeCount text) := by
  rw [takeCount, takeShortNumeral_eq (by decide), ok_bind]
  cases found : Text.takeShortNumeral text with
  | none =>
    rw [TokenRule.takeCount, found]
    rfl
  | some taken =>
    obtain ⟨count, rest⟩ := taken
    rw [takeCount_of_numeral found]
    dsimp only
    cases skipBlanks (takeMark rest).2 <;> rfl

theorem counted_runs : Runs counted .counted := by
  intro text
  rw [counted, TokenRule.counted, takeCount_eq, ok_bind]
  cases TokenRule.takeCount text <;> rfl

theorem findSomeM?_runs {words : List Rule} {scanners : List TokenRule}
    (run : List.Forall₂ Runs words scanners) (text : List Char) :
    (words.findSomeM? fun rule => rule text) = .ok (scanners.findSome? fun rule => rule text) := by
  induction run with
  | nil => rfl
  | @cons rule scanner _ _ runs _ ih =>
    rw [List.findSomeM?, List.findSome?, runs text, ok_bind]
    cases scanner text with
    | some taken => rfl
    | none => exact ih

/-- Whatever the text, no digits at its front fail to parse and no number outgrows its word. -/
theorem takeToken_eq (text : List Char) : takeToken text = .ok (BombMission.takeToken text) :=
  findSomeM?_runs (.cons (plainRule_runs _) (.cons time_runs (.cons strikes_runs
    (.cons (plainRule_runs _) (.cons counted_runs (.cons (plainRule_runs _) .nil)))))) text

/-! ### Texts -/

def scan (text : List Char) : Except WordError (List Lexeme) :=
  match _accepted : takeToken (skipGap text) with
  | .error problem => .error problem
  | .ok none => .ok []
  | .ok (some (kind, rest)) => do
    let behind ← scan rest
    return { gap := dropSuffix text (skipGap text)
             spelling := dropSuffix (skipGap text) rest
             kind } :: behind
termination_by text.length
decreasing_by
  -- the token is the one that the scanner takes, which is not empty
  rw [takeToken_eq] at _accepted
  have shorter := (takeToken_shortens _ _ _ (Except.ok.inj _accepted)).2
  have bound := (skipGap_suffix text).length_le
  omega

theorem scan_eq (text : List Char) : scan text = .ok (Lexeme.scan text) := by
  induction size : text.length using Nat.strongRecOn generalizing text with
  | ind size ih =>
    subst size
    rw [scan]
    split
    next accepted =>
      rw [takeToken_eq] at accepted
      cases accepted
    next accepted =>
      rw [takeToken_eq] at accepted
      rw [Lexeme.scan_of_none (Except.ok.inj accepted)]
    next kind rest accepted =>
      rw [takeToken_eq] at accepted
      have taken := Except.ok.inj accepted
      have shorter := (takeToken_shortens _ _ _ taken).2
      have bound := (skipGap_suffix text).length_le
      rw [ih rest.length (by omega) rest rfl, Lexeme.scan_of_some taken]
      rfl

end Words

/-! ### How much a text can ask for -/

/-- The numbers of a token are no greater than short numerals can make them. -/
def TokenKind.Bounded : TokenKind → Prop
  | time seconds => seconds ≤ 3661 * 999999999
  | strikes limit => limit ≤ 999999999
  | pool text => text.count.getD 1 ≤ 999999999
  | groupOpen copies => copies.getD 1 ≤ 999999999
  | setting .. | groupClose => True

theorem IsClock.le {clock : List Char} {seconds : Nat} (isClock : IsClock clock seconds) :
    seconds ≤ 3661 * 999999999 := by
  cases isClock with
  | minutes first second =>
    have minutes := first.le
    have seconds := second.le
    omega
  | hours first second third =>
    have hours := first.le
    have minutes := second.le
    have seconds := third.le
    omega

theorem OpensOrFills.bounded {count : Option Nat} {unique : Bool} {text rest : List Char}
    {kind : TokenKind} (few : count.getD 1 ≤ 999999999)
    (written : OpensOrFills count unique text kind rest) : kind.Bounded := by
  cases written with
  | opens => exact few
  | fills _ _ means => cases means <;> exact few

/-- A bound that every rule of the grammar keeps holds of the token it makes. -/
theorem FirstOf.bounded {rules : List GrammarRule} {text rest : List Char} {kind : TokenKind}
    (bounded : ∀ rule ∈ rules, ∀ {text kind rest}, rule text kind rest → kind.Bounded)
    (first : FirstOf rules text kind rest) : kind.Bounded := by
  induction first with
  | here written => exact bounded _ List.mem_cons_self written
  | later _ _ ih => exact ih fun rule member => bounded rule (List.mem_cons_of_mem _ member)

theorem bounded_of_tokenGrammar {text rest : List Char} {kind : TokenKind}
    (first : FirstOf tokenGrammar text kind rest) : kind.Bounded := by
  refine first.bounded ?_
  simp only [tokenGrammar, List.forall_mem_cons, List.not_mem_nil, false_implies, implies_true,
    and_true]
  refine ⟨?_, ?_, ?_, ?_, ?_⟩ <;> intro text kind rest written
  · cases written
    trivial
  · cases written with
    | plain isClock | labelled _ isClock => exact isClock.le
  · cases written with
    | mk numeral => exact numeral.le
  · cases written <;> trivial
  · cases written with
    | counted isCount _ made =>
      cases isCount with
      | mk numeral =>
        refine made.bounded ?_
        exact numeral.le
    | plain _ made => exact made.bounded (by decide)

theorem bounded_scanTokens (text : String) : ∀ token ∈ scanTokens text, token.kind.Bounded := by
  intro token member
  obtain ⟨before, spelling, behind, found, -, -, -, -, first⟩ :=
    (reaches_scanTokens text).exists_split member
  exact bounded_of_tokenGrammar first

theorem Layout.length_le {start : Nat} {text : List Char} {tokens : List Token}
    (layout : Layout start text tokens) : tokens.length ≤ byteSize text := by
  induction layout with
  | gap => exact Nat.zero_le _
  | token _ nonempty _ _ _ _ _ ih =>
    have some := byteSize_pos nonempty
    simp only [List.length_cons, byteSize_append]
    omega

/-- Every token takes up a byte at least. -/
theorem length_scanTokens_le (text : String) : (scanTokens text).length ≤ text.utf8ByteSize := by
  have size : byteSize text.toList = text.utf8ByteSize := by
    rw [← utf8ByteSize_ofList, String.ofList_toList]
  rw [← size]
  exact (layout_tokens 0 text.toList).length_le

end BombMission
