import BombMission.Compile
import BombMission.Proofs.Mission.Comments
import BombMission.Random.SplitMix

/-!
# Phrases with several spellings

Strike limits, times and counted pools can be written in more than one way. The ways of writing one
phrase start with a digit or a letter, so that the tokens in front of them do not notice which one it
is, and they act alike on whatever has been read before them. A strike limit and the setting for it
are tokens of different kinds; all other spellings of a phrase make the very same token.

## Main results

* `BodyRun.splitBody_closed`: a body goes on behind a run that is complete.
* `Phrase.exists_reading`: all spellings of a phrase are tokens that act alike.
* `compile_rephrased`: a text compiles to the same however its phrases are spelled.
-/

namespace BombMission

open Text

/-- A setting or a pool that can be written in several ways, by its parts. -/
inductive Phrase where
  | strikes (digits : List Char)
  | time (clock : List Char)
  | counted (digits body : List Char)
  /-- A count of distinct modules. -/
  | distinct (digits body : List Char)

namespace Phrase

/-- The spellings of a phrase. -/
inductive Writes : Phrase → (spelling : List Char) → Prop where
  | limit {digits : List Char} {x : Char} :
      x = 'x' ∨ x = 'X' → Writes (strikes digits) (digits ++ [x])
  | setting {keyword digits : List Char} :
      SpellsWord SettingName.strikes.keyword.toList keyword →
      Writes (strikes digits) (keyword ++ ':' :: digits)
  | clock {clock : List Char} : Writes (time clock) clock
  | labelled {label clock : List Char} :
      SpellsWord "time:".toList label → Writes (time clock) (label ++ clock)
  | star {digits body : List Char} : Writes (counted digits body) (digits ++ '*' :: body)
  | semicolon {digits body : List Char} : Writes (counted digits body) (digits ++ ';' :: body)
  | spaced {digits body : List Char} :
      Writes (counted digits body) (digits ++ ' ' :: ';' :: ' ' :: body)
  | markedCount {digits body : List Char} :
      Writes (distinct digits body) (digits ++ '!' :: '*' :: body)
  | markedBody {digits body : List Char} :
      Writes (distinct digits body) (digits ++ '*' :: (body ++ ['!']))

/-- The parts of a phrase are what they have to be. A body that takes the mark for distinct modules
behind it is complete: no quote is open, and no mark, separator or blank is last. -/
def Fits : Phrase → Prop
  | strikes digits => ∃ n, IsShortNumeral digits n
  | time clock => ∃ seconds, IsClock clock seconds
  | counted digits body =>
    (∃ n, IsShortNumeral digits n) ∧ body ≠ [] ∧ ∃ unclosed, BodyRun body unclosed
  | distinct digits body =>
    (∃ n, IsShortNumeral digits n) ∧ body ≠ [] ∧ BodyRun body false ∧ body.head? ≠ some '(' ∧
      ∀ c, body.getLast? = some c → c ≠ '!' ∧ isSeparator c = false ∧ isBlank c = false

end Phrase

/-! ### Where phrases start -/

/-- The character starts a word of digits or letters that may be the spelling of a phrase. -/
def StartsPhrase (c : Char) : Prop :=
  c.isDigit = true ∨ c.toLower = 't' ∨ c.toLower = 's'

theorem StartsPhrase.solid {c : Char} (starts : StartsPhrase c) :
    isBlank c = false ∧ c ∉ ['/', ')', ':', ';', '*', '!'] := by
  constructor
  · cases blank : isBlank c with
    | false => rfl
    | true =>
      -- a blank is no digit, and it has no other case
      have same : c.toLower = c := toLower_of_isBreak (by simp [isBreak, blank])
      rcases starts with digit | lower | lower
      · cases (isBlank_of_isDigit digit).symm.trans blank
      all_goals
        obtain rfl := same.symm.trans lower
        cases blank
  · intro member
    have each : ∀ d ∈ ['/', ')', ':', ';', '*', '!'],
        ¬ (d.isDigit = true ∨ d.toLower = 't' ∨ d.toLower = 's') := by simp
    exact each c member starts

theorem StartsPhrase.joins {c : Char} (starts : StartsPhrase c) (rest : List Char) :
    Joins (c :: rest) := by
  obtain ⟨solid, plain⟩ := starts.solid
  exact ⟨c, rest, rfl, solid, fun member => plain (List.mem_cons_of_mem _ member)⟩

theorem StartsPhrase.head_ne_slash {c : Char} (starts : StartsPhrase c) : c ≠ '/' := by
  rintro rfl
  exact starts.solid.2 (by decide)

theorem StartsPhrase.not_startsGap {c : Char} (starts : StartsPhrase c) (rest : List Char) :
    ¬ StartsGap (c :: rest) := by
  rintro (⟨d, first, blank⟩ | line | block)
  · obtain rfl := Option.some.inj first
    cases starts.solid.1.symm.trans blank
  · exact starts.head_ne_slash (List.cons_prefix_cons.1 line).1.symm
  · exact starts.head_ne_slash (List.cons_prefix_cons.1 block).1.symm

theorem SpellsWord.exists_cons {w : Char} {word spelling : List Char}
    (spells : SpellsWord (w :: word) spelling) :
    ∃ c rest, spelling = c :: rest ∧ c.toLower = w.toLower := by
  cases spelling with
  | nil => cases spells
  | cons c rest => exact ⟨c, rest, rfl, (List.cons.inj spells).1⟩

theorem Phrase.Writes.startsPhrase {phrase : Phrase} {spelling : List Char} (fits : phrase.Fits)
    (writes : phrase.Writes spelling) : ∃ c rest, spelling = c :: rest ∧ StartsPhrase c := by
  have ofDigits : ∀ {digits more : List Char}, (∃ n, IsShortNumeral digits n) →
      ∃ c rest, digits ++ more = c :: rest ∧ StartsPhrase c := by
    rintro digits more ⟨n, numeral⟩
    obtain ⟨c, rest, rfl, digit⟩ := numeral.exists_cons
    exact ⟨c, rest ++ more, rfl, .inl digit⟩
  cases writes with
  | limit => exact ofDigits fits
  | setting spells =>
    obtain ⟨c, rest, rfl, lower⟩ := SpellsWord.exists_cons spells
    exact ⟨c, _, rfl, .inr (.inr lower)⟩
  | clock =>
    obtain ⟨seconds, isClock⟩ := fits
    obtain ⟨c, rest, rfl, digit⟩ := isClock.exists_cons
    exact ⟨c, rest, rfl, .inl digit⟩
  | labelled spells =>
    obtain ⟨c, rest, rfl, lower⟩ := SpellsWord.exists_cons spells
    exact ⟨c, _, rfl, .inr (.inl lower)⟩
  | star | semicolon | spaced | markedCount | markedBody => exact ofDigits fits.1

/-! ### What the spellings are read as -/

/-- Two kinds of token do the same to everything that may have been read before them. -/
def TokenKind.ActsAs (kind other : TokenKind) : Prop :=
  ∀ (σ : Type) [RandomSource σ] (ctx : Context) (progress : Progress σ),
    progress.step ctx kind = progress.step ctx other

theorem TokenKind.ActsAs.refl (kind : TokenKind) : kind.ActsAs kind :=
  fun _ _ _ _ => rfl

/-- The setting for the strike limit reads a short numeral as the limit. -/
theorem strikesSetting_actsAs {digits : List Char} {n : Nat} (numeral : IsShortNumeral digits n) :
    (TokenKind.setting .strikes (some (String.ofList digits))).ActsAs (.strikes n) := by
  intro σ _ ctx progress
  have read : readNumber maxWord digits = some n := by
    obtain ⟨c, rest, rfl, digit⟩ := numeral.exists_cons
    unfold readNumber
    split
    next plus =>
      obtain ⟨rfl, -⟩ := List.cons.inj plus
      cases digit
    · exact numeral.readDigits (by decide)
  have number : settingNumber (some (String.ofList digits)) = some n := by
    simpa [settingNumber] using read
  simp only [Progress.step, Progress.applySetting, number, Option.bind_some]

theorem close_of_startsPhrase {c : Char} (starts : StartsPhrase c) (rest : List Char) :
    TokenRule.close (c :: rest) = none := by
  unfold TokenRule.close
  split
  next same =>
    obtain ⟨rfl, -⟩ := List.cons.inj same
    exact absurd starts.solid.2 (by decide)
  · rfl

theorem takeToken_time {clock label rest : List Char} {seconds : Nat}
    (isClock : IsClock clock seconds) (labelled : label = [] ∨ SpellsWord "time:".toList label)
    (ends : EndsWord rest) : takeToken (label ++ clock ++ rest) = some (.time seconds, rest) := by
  have accepted := (time_follows _ _ _).2
    (writesTime_append_iff.2 ⟨⟨seconds, ⟨label, clock, rfl, labelled, isClock⟩, rfl⟩, ends⟩)
  have starts : ∃ c more, label ++ clock = c :: more ∧ StartsPhrase c := by
    rcases labelled with rfl | spells
    · obtain ⟨c, more, rfl, digit⟩ := isClock.exists_cons
      exact ⟨c, more, rfl, .inl digit⟩
    · obtain ⟨c, more, rfl, lower⟩ := SpellsWord.exists_cons spells
      exact ⟨c, _, rfl, .inr (.inl lower)⟩
  obtain ⟨c, more, whole, starts⟩ := starts
  rw [whole] at accepted ⊢
  have open_ := close_of_startsPhrase starts (more ++ rest)
  rw [← List.cons_append] at open_
  simp only [takeToken, tokenRules, List.findSome?_cons, open_, accepted]

section Letter

variable {c : Char} (notDigit : c.isDigit = false)
include notDigit

theorem takeShortNumeral_of_letter (rest : List Char) : takeShortNumeral (c :: rest) = none := by
  simp [takeShortNumeral, notDigit]

theorem strikes_of_letter (rest : List Char) : TokenRule.strikes (c :: rest) = none := by
  simp only [TokenRule.strikes, takeShortNumeral_of_letter notDigit]

/-- A time starts with a digit or with its label. -/
theorem time_of_letter (other : c.toLower ≠ 't') (rest : List Char) :
    TokenRule.time (c :: rest) = none := by
  have unlabelled : dropWordIgnoringCase "time:".toList (c :: rest) = none := if_neg other
  simp only [TokenRule.time, unlabelled, Option.getD_none, Clock.read,
    takeShortNumeral_of_letter notDigit]

end Letter

theorem takeToken_strikesSetting {keyword digits rest : List Char} {n : Nat}
    (spells : SpellsWord SettingName.strikes.keyword.toList keyword)
    (numeral : IsShortNumeral digits n) (ends : EndsWord rest) :
    takeToken (keyword ++ ':' :: digits ++ rest) =
      some (.setting .strikes (some (String.ofList digits)), rest) := by
  have isRun : IsRun (fun c => !(isBlank c || c = ')')) digits rest := by
    refine ⟨fun c member => ?_, fun c first => by simp [ends c first]⟩
    have unbroken := numeral.not_isBreak c member
    simp only [isBreak, Bool.or_eq_false_iff] at unbroken
    simp [unbroken.1.1, unbroken.2]
  have accepted : TokenRule.setting (keyword ++ ':' :: digits ++ rest) =
      some (.setting .strikes (some (String.ofList digits)), rest) := by
    rw [List.append_assoc, List.cons_append, setting_keyword spells, settingValue_valued isRun]
  -- the keyword starts with its letter, so no rule before the one for settings begins
  obtain ⟨c, more, rfl, lower⟩ := SpellsWord.exists_cons spells
  have notDigit : c.isDigit = false := by
    cases digit : c.isDigit with
    | false => rfl
    | true =>
      obtain rfl := (toLower_of_isDigit digit).symm.trans lower
      cases digit
  have other : c.toLower ≠ 't' := by
    rw [lower]
    decide
  rw [List.append_assoc, List.cons_append] at accepted ⊢
  simp only [takeToken, tokenRules, List.findSome?_cons,
    close_of_startsPhrase (.inr (.inr lower)), time_of_letter notDigit other,
    strikes_of_letter notDigit, accepted]

/-! ### Counted bodies -/

theorem splitBody_of_endsWord {rest : List Char} (ends : EndsWord rest) :
    splitBody .plain rest = ⟨[], rest, false⟩ := by
  cases rest with
  | nil => rfl
  | cons c rest =>
    have blank : isBlank c = true := ends c rfl
    simp [splitBody, blank]

theorem BodyRun.goesOn {body : List Char} {unclosed : Bool} (isRun : BodyRun body unclosed)
    (nonempty : body ≠ []) (rest : List Char) : GoesOn (body ++ rest) := by
  obtain ⟨c, behind, rfl⟩ := List.exists_cons_of_ne_nil nonempty
  obtain ⟨split, whole, -⟩ := isRun.splitBody_append fun _ => rfl
  have taken : (splitBody .plain (c :: (behind ++ []))).spelling ≠ [] := by
    rw [← List.cons_append, whole]
    simp [BodySplit.prepend]
  have inside := mt spelling_splitBody_plain_eq_nil.2 taken
  simp only [not_or, Bool.not_eq_true] at inside
  exact ⟨c, behind ++ rest, rfl, inside.1, inside.2⟩

/-- The pool of a body that asks for distinct modules, wherever the mark for them stands. -/
def distinctPool (count : Nat) (body : List Char) : PoolText :=
  { body := bareBody body
    count := some count
    unique := true
    unclosedQuote := false }

section Bodies

variable {digits body rest : List Char} {n : Nat}

theorem groupOrPool_markedCount (nonempty : body ≠ []) (isRun : BodyRun body false)
    (other : body.head? ≠ some '(')
    (ended : ∀ c, body.getLast? = some c → c ≠ '!' ∧ isSeparator c = false ∧ isBlank c = false)
    (ends : EndsWord rest) :
    TokenRule.groupOrPool (some n) true (body ++ rest) =
      some (.pool (distinctPool n body), rest) := by
  have split : splitBody .plain (body ++ rest) = ⟨body, rest, false⟩ := by
    rw [isRun.splitBody_closed fun c last => (ended c last).2, splitBody_of_endsWord ends]
    simp [BodySplit.prepend]
  have unmarked : (⟨body, rest, false⟩ : BodySplit).endsUnique = false := by
    have last : body.getLast? ≠ some '!' := fun last => (ended '!' last).1 rfl
    simp [BodySplit.endsUnique, last]
  rw [groupOrPool_of_not_bracket (by rwa [List.head?_append_of_ne_nil _ nonempty]), TokenRule.pool,
    split]
  simp [nonempty, BodySplit.pool, unmarked, distinctPool]

theorem groupOrPool_markedBody (nonempty : body ≠ []) (isRun : BodyRun body false)
    (other : body.head? ≠ some '(')
    (ended : ∀ c, body.getLast? = some c → c ≠ '!' ∧ isSeparator c = false ∧ isBlank c = false)
    (ends : EndsWord rest) :
    TokenRule.groupOrPool (some n) false (body ++ '!' :: rest) =
      some (.pool (distinctPool n body), rest) := by
  have split : splitBody .plain (body ++ '!' :: rest) = ⟨body ++ ['!'], rest, false⟩ := by
    rw [isRun.splitBody_closed fun c last => (ended c last).2,
      splitBody_plainChar rfl rfl rfl (by decide), splitBody_of_endsWord ends]
    simp [BodySplit.prepend]
  have marked : (⟨body ++ ['!'], rest, false⟩ : BodySplit).endsUnique = true :=
    endsUnique_iff.2 ⟨rfl, body, nonempty, rfl⟩
  rw [groupOrPool_of_not_bracket (by rwa [List.head?_append_of_ne_nil _ nonempty]), TokenRule.pool,
    split]
  simp [BodySplit.pool, marked, distinctPool]

end Bodies

namespace Phrase

/-- All spellings of a phrase are tokens in front of some rest and act as a token of this kind. -/
def ReadsAs (phrase : Phrase) (rest : List Char) (common : TokenKind) : Prop :=
  ∀ spelling, phrase.Writes spelling →
    ∃ kind, takeToken (spelling ++ rest) = some (kind, rest) ∧ kind.ActsAs common

variable {digits clock body rest : List Char} {n seconds : Nat} {kind : TokenKind}

theorem strikes_readsAs (numeral : IsShortNumeral digits n) (ends : EndsWord rest) :
    (strikes digits).ReadsAs rest (.strikes n) := by
  intro spelling writes
  cases writes with
  | limit marked =>
    refine ⟨_, ?_, .refl _⟩
    rw [List.append_assoc]
    exact takeToken_strikes numeral marked ends
  | setting spells =>
    exact ⟨_, takeToken_strikesSetting spells numeral ends, strikesSetting_actsAs numeral⟩

theorem time_readsAs (isClock : IsClock clock seconds) (ends : EndsWord rest) :
    (time clock).ReadsAs rest (.time seconds) := by
  intro spelling writes
  cases writes with
  | clock => exact ⟨_, takeToken_time isClock (.inl rfl) ends, .refl _⟩
  | labelled spells => exact ⟨_, takeToken_time isClock (.inr spells) ends, .refl _⟩

theorem takeToken_of_counted {spelling : List Char} (numeral : IsShortNumeral digits n)
    (goesOn : GoesOn (body ++ rest)) (writes : (counted digits body).Writes spelling) :
    takeToken (spelling ++ rest) = TokenRule.groupOrPool (some n) false (body ++ rest) := by
  cases writes with
  | star =>
    rw [List.append_cons digits, List.append_assoc]
    exact takeToken_counted (.starred numeral) goesOn
  | semicolon =>
    have isCount : IsCount (digits ++ [';']) n false :=
      @IsCount.mk digits [] [] [] n false ';' numeral rfl (by simp) (.inl rfl) (by simp)
    rw [List.append_cons digits, List.append_assoc]
    exact takeToken_counted isCount goesOn
  | spaced =>
    have isCount : IsCount (digits ++ [' ', ';', ' ']) n false :=
      @IsCount.mk digits [] [' '] [' '] n false ';' numeral rfl (by simp [isBlank]) (.inl rfl)
        (by simp [isBlank])
    have whole : digits ++ ' ' :: ';' :: ' ' :: body ++ rest =
        digits ++ [' ', ';', ' '] ++ (body ++ rest) := by simp
    rw [whole]
    exact takeToken_counted isCount goesOn

theorem counted_readsAs (numeral : IsShortNumeral digits n) (goesOn : GoesOn (body ++ rest))
    (made : TokenRule.groupOrPool (some n) false (body ++ rest) = some (kind, rest)) :
    (counted digits body).ReadsAs rest kind := by
  intro spelling writes
  exact ⟨kind, (takeToken_of_counted numeral goesOn writes).trans made, .refl _⟩

theorem distinct_readsAs (numeral : IsShortNumeral digits n) (nonempty : body ≠ [])
    (isRun : BodyRun body false) (other : body.head? ≠ some '(')
    (ended : ∀ c, body.getLast? = some c → c ≠ '!' ∧ isSeparator c = false ∧ isBlank c = false)
    (ends : EndsWord rest) :
    (distinct digits body).ReadsAs rest (.pool (distinctPool n body)) := by
  intro spelling writes
  refine ⟨_, ?_, .refl _⟩
  cases writes with
  | markedCount =>
    have isCount : IsCount (digits ++ ['!', '*']) n true :=
      @IsCount.mk digits ['!'] [] [] n true '*' numeral rfl (by simp) (.inr rfl) (by simp)
    have whole : digits ++ '!' :: '*' :: body ++ rest =
        digits ++ ['!', '*'] ++ (body ++ rest) := by simp
    rw [whole, takeToken_counted isCount (isRun.goesOn nonempty rest)]
    exact groupOrPool_markedCount nonempty isRun other ended ends
  | markedBody =>
    have whole : digits ++ '*' :: (body ++ ['!']) ++ rest =
        digits ++ ['*'] ++ (body ++ '!' :: rest) := by simp
    rw [whole, takeToken_counted (.starred numeral) (isRun.goesOn nonempty _)]
    exact groupOrPool_markedBody nonempty isRun other ended ends

/-- Once a spelling of a phrase is a token, all of them are tokens and act alike. -/
theorem exists_reading {phrase : Phrase} (fits : phrase.Fits) {spelling : List Char}
    (writes : phrase.Writes spelling) (ends : EndsWord rest)
    (taken : takeToken (spelling ++ rest) = some (kind, rest)) :
    ∃ common, phrase.ReadsAs rest common := by
  cases phrase with
  | strikes digits =>
    obtain ⟨n, numeral⟩ := fits
    exact ⟨_, strikes_readsAs numeral ends⟩
  | time clock =>
    obtain ⟨seconds, isClock⟩ := fits
    exact ⟨_, time_readsAs isClock ends⟩
  | counted digits body =>
    -- the body may go on into the rest, so the token that is known decides what the others are
    obtain ⟨⟨n, numeral⟩, nonempty, unclosed, isRun⟩ := fits
    have goesOn := isRun.goesOn nonempty rest
    rw [takeToken_of_counted numeral goesOn writes] at taken
    exact ⟨kind, counted_readsAs numeral goesOn taken⟩
  | distinct digits body =>
    obtain ⟨⟨n, numeral⟩, nonempty, isRun, other, ended⟩ := fits
    exact ⟨_, distinct_readsAs numeral nonempty isRun other ended ends⟩

end Phrase

/-! ### Compiled texts -/

theorem compileTokens_of_actsAs {σ : Type} [RandomSource σ] {tokens tokens' : List Token}
    {before behind : List TokenKind} {kind kind' : TokenKind} (alike : kind'.ActsAs kind)
    (kinds : tokens.map Token.kind = before ++ kind :: behind)
    (kinds' : tokens'.map Token.kind = before ++ kind' :: behind) (ctx : Context) (source : σ) :
    compileTokens ctx tokens' source = compileTokens ctx tokens source := by
  have read : readTokens ctx (before ++ kind' :: behind) source =
      readTokens ctx (before ++ kind :: behind) source := by
    rw [readTokens, readTokens, Progress.run_append, Progress.run_append, Progress.run_cons,
      Progress.run_cons, alike]
  rw [compileTokens, compileTokens, kinds, kinds', Outline.ofTokens, Outline.ofTokens, read]

/-- A text compiles to the same mission or problems, and leaves chance as it does, however a phrase
in it is spelled. The phrase is a token of the text in one of its spellings, and a blank or the end
of the text is behind it. -/
theorem compile_rephrased {phrase : Phrase} (fits : phrase.Fits) {spelling other : List Char}
    (writes : phrase.Writes spelling) (writes' : phrase.Writes other) {front rest : List Char}
    (ends : EndsWord rest)
    (whole : ∃ token ∈ scanTokens (String.ofList (front ++ (spelling ++ rest))),
      token.start = byteSize front ∧ token.stop = byteSize (front ++ spelling))
    {σ : Type} [RandomSource σ] (ctx : Context) (source : σ) :
    compile ctx (String.ofList (front ++ (other ++ rest))) source =
      compile ctx (String.ofList (front ++ (spelling ++ rest))) source := by
  obtain ⟨token, member, starts, stops⟩ := whole
  obtain ⟨found, reaches, taken⟩ := reaches_of_mem_scanTokens member starts stops
  obtain ⟨common, readsAs⟩ := Phrase.exists_reading fits writes ends taken
  -- both spellings join the front, so the scanner finds the same tokens there
  obtain ⟨c, own, spelled, starts⟩ := writes.startsPhrase fits
  obtain ⟨d, own', spelled', starts'⟩ := writes'.startsPhrase fits
  have joins : Joins (spelling ++ rest) := spelled ▸ starts.joins (own ++ rest)
  have joins' : Joins (other ++ rest) := spelled' ▸ starts'.joins (own' ++ rest)
  have solid : ¬ StartsGap (spelling ++ rest) := spelled ▸ starts.not_startsGap (own ++ rest)
  have solid' : ¬ StartsGap (other ++ rest) := spelled' ▸ starts'.not_startsGap (own' ++ rest)
  have reaches' : Reaches (other ++ rest) 0 front found := by
    refine reaches.keeps joins joins' fun slash => ?_
    rw [spelled'] at slash
    exact absurd (Option.some.inj slash) starts'.head_ne_slash
  -- the tokens differ in this one at most, and what it does is the same
  obtain ⟨kind, same, acts⟩ := readsAs spelling writes
  obtain ⟨kind', taken', acts'⟩ := readsAs other writes'
  have alike : kind'.ActsAs kind := fun σ _ ctx progress =>
    (acts' σ ctx progress).trans (acts σ ctx progress).symm
  exact compileTokens_of_actsAs alike (map_kind_scanTokens reaches solid same)
    (map_kind_scanTokens reaches' solid' taken') ctx source

/-- A strike limit and the setting for it. -/
theorem compile_rephrased_strikes :
    (Phrase.strikes ['3']).Fits ∧ (Phrase.strikes ['3']).Writes "3X".toList ∧
      (Phrase.strikes ['3']).Writes "Strikes:3".toList ∧ EndsWord " Wires".toList ∧
      (∃ token ∈ scanTokens "5:00 3X Wires", token.start = 5 ∧ token.stop = 7) ∧
      compile {} "5:00 Strikes:3 Wires" (SplitMix.ofSeed 0) =
        compile {} "5:00 3X Wires" (SplitMix.ofSeed 0) := by
  have fits : (Phrase.strikes ['3']).Fits := ⟨3, by simp, by simp, by simp, rfl⟩
  have writes : (Phrase.strikes ['3']).Writes "3X".toList := .limit (.inr rfl)
  have spells : SpellsWord SettingName.strikes.keyword.toList "Strikes".toList := by
    simp [SpellsWord, SettingName.keyword]
  have writes' : (Phrase.strikes ['3']).Writes "Strikes:3".toList :=
    @Phrase.Writes.setting _ ['3'] spells
  have ends : EndsWord " Wires".toList := by
    rintro c first
    obtain rfl := Option.some.inj first
    rfl
  have whole : ∃ token ∈ scanTokens "5:00 3X Wires", token.start = 5 ∧ token.stop = 7 := by
    decide +kernel
  refine ⟨fits, writes, writes', ends, whole, ?_⟩
  exact @compile_rephrased _ fits _ _ writes writes' "5:00 ".toList _ ends whole _ _ {}
    (SplitMix.ofSeed 0)

end BombMission
