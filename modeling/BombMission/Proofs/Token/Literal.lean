import BombMission.Proofs.Token.Grammar

/-!
# Literals and settings by the grammar

A greedy reader takes the longest run of a class of characters, and `IsRun` determines that run. So a
reader of runs is settled by what may stand behind them: no digit is a blank or a colon, so a number
that ends a word cannot be cut short. This module goes through the scanner rules for brackets, times,
strike limits, settings and counts one by one and shows of each that it follows its grammar rule.
-/

namespace BombMission

open Text

/-! ### Runs -/

theorem dropWhile_eq_self {ofClass : Char → Bool} {text : List Char}
    (stops : ∀ c, text.head? = some c → ofClass c = false) : text.dropWhile ofClass = text := by
  cases text with
  | nil => rfl
  | cons c text => exact List.dropWhile_cons_of_neg (by simp [stops c rfl])

namespace IsRun

variable {ofClass : Char → Bool} {run rest : List Char}

theorem dropWhile_append (isRun : IsRun ofClass run rest) :
    (run ++ rest).dropWhile ofClass = rest := by
  rw [List.dropWhile_append_of_pos isRun.inside, dropWhile_eq_self isRun.stops]

theorem takeWhile_append (isRun : IsRun ofClass run rest) :
    (run ++ rest).takeWhile ofClass = run := by
  have both := @List.takeWhile_append_dropWhile Char ofClass (run ++ rest)
  rw [isRun.dropWhile_append] at both
  exact List.append_cancel_right both

theorem takeWhile (ofClass : Char → Bool) (text : List Char) :
    IsRun ofClass (text.takeWhile ofClass) (text.dropWhile ofClass) := by
  refine ⟨?_, ?_⟩
  · exact List.all_eq_true.1 List.all_takeWhile
  · intro c first
    have stopped := List.head?_dropWhile_not ofClass text
    rw [first] at stopped
    simpa using stopped

end IsRun

/-! ### Words -/

theorem isBlank_of_isDigit {c : Char} (digit : c.isDigit = true) : isBlank c = false := by
  simp only [Char.isDigit, Bool.and_eq_true, decide_eq_true_eq, UInt32.le_iff_toNat_le] at digit
  have low : 48 ≤ c.toNat := digit.1
  have high : c.toNat ≤ 57 := digit.2
  simp [isBlank]
  omega

theorem atWordEnd_iff {rest : List Char} : atWordEnd rest = true ↔ EndsWord rest := by
  cases rest <;> simp [atWordEnd, EndsWord]

theorem EndsWord.not_isDigit {rest : List Char} (ends : EndsWord rest) :
    ∀ c, rest.head? = some c → c.isDigit = false := by
  intro c first
  have blank := ends c first
  cases digit : c.isDigit with
  | false => rfl
  | true => cases (isBlank_of_isDigit digit).symm.trans blank

theorem takeShortNumeral_eq_some_iff {text rest : List Char} {n : Nat} :
    takeShortNumeral text = some (n, rest) ↔ ∃ digits, text = digits ++ rest ∧
      IsShortNumeral digits n ∧ ∀ c, rest.head? = some c → c.isDigit = false := by
  have run := IsRun.takeWhile Char.isDigit text
  constructor
  · intro taken
    simp only [takeShortNumeral, Option.ite_none_right_eq_some, Option.some.injEq,
      Prod.mk.injEq] at taken
    obtain ⟨⟨some, few⟩, rfl, rfl⟩ := taken
    exact ⟨text.takeWhile Char.isDigit, List.takeWhile_append_dropWhile.symm,
      ⟨run.inside, some, few, rfl⟩, run.stops⟩
  · rintro ⟨digits, rfl, numeral, stops⟩
    have whole : IsRun Char.isDigit digits rest := ⟨numeral.decimal, stops⟩
    unfold takeShortNumeral
    dsimp only
    rw [whole.takeWhile_append, whole.dropWhile_append,
      if_pos ⟨numeral.one_le, numeral.le_nine⟩, ← numeral.value]

theorem ofDigitChars_lt {digits : List Char} (decimal : ∀ c ∈ digits, c.isDigit = true)
    (start : Nat) : Nat.ofDigitChars 10 digits start < (start + 1) * Nat.pow 10 digits.length := by
  induction digits generalizing start with
  | nil => simp [Nat.ofDigitChars]
  | cons c digits ih =>
    obtain ⟨digit, later⟩ := List.forall_mem_cons.1 decimal
    simp only [Char.isDigit, Bool.and_eq_true, decide_eq_true_eq, UInt32.le_iff_toNat_le] at digit
    have high : c.toNat ≤ 57 := digit.2
    have zero : '0'.toNat = 48 := rfl
    have scaled : 10 * start + (c.toNat - '0'.toNat) + 1 ≤ (start + 1) * 10 := by omega
    have wider : Nat.pow 10 (c :: digits).length = 10 * Nat.pow 10 digits.length :=
      Nat.mul_comm ..
    rw [Nat.ofDigitChars_cons, wider, ← Nat.mul_assoc]
    exact Nat.lt_of_lt_of_le (ih later _) (Nat.mul_le_mul_right _ scaled)

theorem IsShortNumeral.le {digits : List Char} {n : Nat} (numeral : IsShortNumeral digits n) :
    n ≤ 999999999 := by
  have bound := ofDigitChars_lt numeral.decimal 0
  have wide : Nat.pow 10 digits.length ≤ Nat.pow 10 9 :=
    Nat.pow_le_pow_right (by decide) numeral.le_nine
  have value : n = Nat.ofDigitChars 10 digits 0 := numeral.value
  have billion : Nat.pow 10 9 = 1000000000 := rfl
  omega

/-- A short numeral is a number within any limit of nine digits. -/
theorem IsShortNumeral.readDigits {digits : List Char} {n limit : Nat}
    (numeral : IsShortNumeral digits n) (large : 999999999 ≤ limit) :
    Text.readDigits limit digits = some n := by
  have nonempty := List.length_pos_iff.1 numeral.one_le
  have within : digitsValue digits ≤ limit := numeral.value ▸ Nat.le_trans numeral.le large
  rw [Text.readDigits, if_pos ⟨nonempty, List.all_eq_true.2 numeral.decimal, within⟩, numeral.value]

theorem dropWordIgnoringCase_eq_some_iff {word text rest : List Char} :
    dropWordIgnoringCase word text = some rest ↔
      ∃ spelling, text = spelling ++ rest ∧ SpellsWord word spelling := by
  fun_induction dropWordIgnoringCase word text with
  | case1 text =>
    constructor
    · intro same
      exact ⟨[], Option.some.inj same, rfl⟩
    · rintro ⟨spelling, rfl, spells⟩
      have none : spelling = [] := List.map_eq_nil_iff.1 spells
      rw [none, List.nil_append]
  | case2 w word =>
    refine ⟨by simp, ?_⟩
    rintro ⟨spelling, ended, spells⟩
    obtain ⟨rfl, -⟩ := List.append_eq_nil_iff.1 ended.symm
    cases spells
  | case3 w word c text same ih =>
    rw [ih]
    constructor
    · rintro ⟨spelling, rfl, spells⟩
      exact ⟨c :: spelling, rfl, by rw [SpellsWord, List.map_cons, List.map_cons, same, spells]⟩
    · rintro ⟨spelling, whole, spells⟩
      cases spelling with
      | nil => cases spells
      | cons d spelling =>
        obtain ⟨rfl, rfl⟩ := List.cons.inj whole
        exact ⟨spelling, rfl, (List.cons.inj spells).2⟩
  | case4 w word c text differs =>
    refine ⟨by simp, ?_⟩
    rintro ⟨spelling, whole, spells⟩
    cases spelling with
    | nil => cases spells
    | cons d spelling =>
      obtain ⟨rfl, rfl⟩ := List.cons.inj whole
      exact absurd (List.cons.inj spells).1 differs

theorem SpellsWord.dropWord_append {word spelling : List Char} (spells : SpellsWord word spelling)
    (rest : List Char) : dropWordIgnoringCase word (spelling ++ rest) = some rest :=
  dropWordIgnoringCase_eq_some_iff.2 ⟨spelling, rfl, spells⟩

/-- A scanner rule accepts what a rule of the grammar writes. -/
def TokenRule.Follows (rule : TokenRule) (grammar : GrammarRule) : Prop :=
  ∀ text kind rest, rule text = some (kind, rest) ↔ grammar text kind rest

/-! ### Literals -/

theorem close_follows : TokenRule.close.Follows ClosesGroup := by
  intro text kind rest
  constructor
  · intro accepted
    unfold TokenRule.close at accepted
    split at accepted
    · obtain ⟨rfl, rfl⟩ := by simpa using accepted
      exact .mk
    · cases accepted
  · rintro ⟨⟩
    rfl

theorem takeField_eq_some_iff {text rest : List Char} {n : Nat} :
    Clock.takeField text = some (n, rest) ↔ ∃ digits, text = ':' :: (digits ++ rest) ∧
      IsShortNumeral digits n ∧ ∀ c, rest.head? = some c → c.isDigit = false := by
  unfold Clock.takeField
  split
  · simp [takeShortNumeral_eq_some_iff]
  next other =>
    refine ⟨by simp, ?_⟩
    rintro ⟨digits, rfl, -⟩
    exact absurd rfl (other _)

theorem IsShortNumeral.exists_cons {digits : List Char} {n : Nat}
    (numeral : IsShortNumeral digits n) :
    ∃ c rest, digits = c :: rest ∧ c.isDigit = true := by
  cases digits with
  | nil => exact absurd numeral.one_le (by simp)
  | cons c rest => exact ⟨c, rest, rfl, numeral.decimal c (by simp)⟩

theorem isClock_of_read {text rest : List Char} {seconds : Nat}
    (read : Clock.read text = some (seconds, rest)) :
    ∃ clock, text = clock ++ rest ∧ IsClock clock seconds := by
  unfold Clock.read at read
  split at read
  · cases read
  next h afterFirst first =>
    obtain ⟨firstDigits, rfl, firstNumeral, -⟩ := takeShortNumeral_eq_some_iff.1 first
    split at read
    · cases read
    next m afterSecond second =>
      obtain ⟨secondDigits, rfl, secondNumeral, -⟩ := takeField_eq_some_iff.1 second
      -- whether there are hours shows only behind the second field
      split at read
      · obtain ⟨rfl, rfl⟩ := by simpa using read
        exact ⟨_, by simp, .minutes firstNumeral secondNumeral⟩
      next s afterThird third =>
        obtain ⟨thirdDigits, rfl, thirdNumeral, -⟩ := takeField_eq_some_iff.1 third
        obtain ⟨rfl, rfl⟩ := by simpa using read
        exact ⟨_, by simp, .hours firstNumeral secondNumeral thirdNumeral⟩

theorem EndsWord.takeField_eq_none {rest : List Char} (ends : EndsWord rest) :
    Clock.takeField rest = none := by
  cases rest with
  | nil => rfl
  | cons c rest =>
    unfold Clock.takeField
    split
    next same =>
      -- a colon is no blank, so no word ends in front of it
      obtain ⟨rfl, -⟩ := List.cons.inj same
      exact absurd (ends ':' rfl) (by decide)
    · rfl

theorem IsClock.read_append {clock rest : List Char} {seconds : Nat} (isClock : IsClock clock seconds)
    (ends : EndsWord rest) : Clock.read (clock ++ rest) = some (seconds, rest) := by
  have colon : ∀ text : List Char, ∀ c, (':' :: text).head? = some c → c.isDigit = false := by
    rintro text c first
    obtain rfl := Option.some.inj first
    rfl
  -- behind the last field stands a blank or nothing, so it does not go on and no other follows
  cases isClock with
  | @minutes first second m s firstNumeral secondNumeral =>
    have taken : takeShortNumeral (first ++ ':' :: second ++ rest) =
        some (m, ':' :: (second ++ rest)) :=
      takeShortNumeral_eq_some_iff.2 ⟨first, by simp, firstNumeral, colon _⟩
    have next : Clock.takeField (':' :: (second ++ rest)) = some (s, rest) :=
      takeField_eq_some_iff.2 ⟨second, rfl, secondNumeral, ends.not_isDigit⟩
    simp only [Clock.read, taken, next, ends.takeField_eq_none]
  | @hours first second third h m s firstNumeral secondNumeral thirdNumeral =>
    have taken : takeShortNumeral (first ++ ':' :: (second ++ ':' :: third) ++ rest) =
        some (h, ':' :: (second ++ ':' :: (third ++ rest))) :=
      takeShortNumeral_eq_some_iff.2 ⟨first, by simp, firstNumeral, colon _⟩
    have next : Clock.takeField (':' :: (second ++ ':' :: (third ++ rest))) =
        some (m, ':' :: (third ++ rest)) :=
      takeField_eq_some_iff.2 ⟨second, rfl, secondNumeral, colon _⟩
    have last : Clock.takeField (':' :: (third ++ rest)) = some (s, rest) :=
      takeField_eq_some_iff.2 ⟨third, rfl, thirdNumeral, ends.not_isDigit⟩
    simp only [Clock.read, taken, next, last]

theorem toLower_of_isDigit {c : Char} (digit : c.isDigit = true) : c.toLower = c := by
  refine dif_neg ?_
  simp only [Char.isDigit] at digit
  grind

/-- No word of letters starts with a digit. -/
theorem dropWord_of_isDigit {c : Char} (digit : c.isDigit = true) {word : List Char}
    (letters : word.head?.any (fun w => !w.toLower.isDigit) = true) (text : List Char) :
    dropWordIgnoringCase word (c :: text) = none := by
  cases word with
  | nil => cases letters
  | cons w word =>
    apply if_neg
    intro same
    rw [toLower_of_isDigit digit] at same
    simp [← same, digit] at letters

theorem IsClock.exists_cons {clock : List Char} {seconds : Nat} (isClock : IsClock clock seconds) :
    ∃ c rest, clock = c :: rest ∧ c.isDigit = true := by
  cases isClock with
  | minutes first _ =>
    obtain ⟨c, rest, rfl, digit⟩ := first.exists_cons
    exact ⟨c, _, rfl, digit⟩
  | hours first _ _ =>
    obtain ⟨c, rest, rfl, digit⟩ := first.exists_cons
    exact ⟨c, _, rfl, digit⟩

theorem IsClock.dropWord_label {clock : List Char} {seconds : Nat} (isClock : IsClock clock seconds)
    (rest : List Char) : dropWordIgnoringCase "time:".toList (clock ++ rest) = none := by
  obtain ⟨c, behind, rfl, digit⟩ := isClock.exists_cons
  exact dropWord_of_isDigit digit (by decide) _

theorem time_follows : TokenRule.time.Follows WritesTime := by
  intro text kind rest
  constructor
  · intro accepted
    unfold TokenRule.time at accepted
    split at accepted
    next seconds left read =>
      split at accepted
      next ended =>
        obtain ⟨rfl, rfl⟩ := by simpa using accepted
        have ends := atWordEnd_iff.1 ended
        obtain ⟨clock, written, isClock⟩ := isClock_of_read read
        -- the clock was read behind the label, or at the front when there is none
        cases word : dropWordIgnoringCase "time:".toList text with
        | none =>
          rw [word, Option.getD_none] at written
          rw [written]
          exact .plain isClock ends
        | some after =>
          obtain ⟨label, rfl, spells⟩ := dropWordIgnoringCase_eq_some_iff.1 word
          rw [word, Option.getD_some] at written
          rw [written]
          exact .labelled spells isClock ends
      · cases accepted
    · cases accepted
  · intro written
    cases written with
    | @plain clock _ seconds isClock ends =>
      -- a clock starts with a digit, so it is never taken for the label
      unfold TokenRule.time
      rw [isClock.dropWord_label rest, Option.getD_none, isClock.read_append ends]
      exact if_pos (atWordEnd_iff.2 ends)
    | @labelled label clock _ seconds spells isClock ends =>
      unfold TokenRule.time
      rw [spells.dropWord_append (clock ++ rest), Option.getD_some, isClock.read_append ends]
      exact if_pos (atWordEnd_iff.2 ends)

theorem strikes_follows : TokenRule.strikes.Follows WritesStrikes := by
  intro text kind rest
  constructor
  · intro accepted
    unfold TokenRule.strikes at accepted
    split at accepted
    next limit x left taken =>
      obtain ⟨digits, rfl, numeral, -⟩ := takeShortNumeral_eq_some_iff.1 taken
      split at accepted
      next marked =>
        obtain ⟨rfl, rfl⟩ := by simpa using accepted
        simp only [Bool.and_eq_true, Bool.or_eq_true, decide_eq_true_eq] at marked
        exact .mk numeral marked.1 (atWordEnd_iff.1 marked.2)
      · cases accepted
    · cases accepted
  · intro written
    cases written with
    | @mk digits _ limit x numeral marked ends =>
      have stops : ∀ c, (x :: rest).head? = some c → c.isDigit = false := by
        intro c first
        obtain rfl := Option.some.inj first
        rcases marked with rfl | rfl <;> rfl
      have taken := takeShortNumeral_eq_some_iff.2 ⟨digits, rfl, numeral, stops⟩
      unfold TokenRule.strikes
      rw [taken]
      exact if_pos (by simpa [atWordEnd_iff.2 ends] using marked)

/-! ### Settings -/

theorem eq_of_keywords_begin_alike {name other : SettingName}
    (starts : name.keyword.toList.map Char.toLower <+: other.keyword.toList.map Char.toLower) :
    name = other := by
  -- no keyword starts with another one, by the list of all seven
  revert starts
  cases name <;> cases other <;> decide

theorem eq_of_spellsWord {name other : SettingName} {text spelling otherSpelling : List Char}
    (spells : SpellsWord name.keyword.toList spelling) (starts : spelling <+: text)
    (otherSpells : SpellsWord other.keyword.toList otherSpelling)
    (otherStarts : otherSpelling <+: text) : name = other := by
  have lower := starts.map Char.toLower
  have otherLower := otherStarts.map Char.toLower
  rw [spells] at lower
  rw [otherSpells] at otherLower
  -- both start one text, so one of them starts the other
  rcases List.prefix_or_prefix_of_prefix lower otherLower with inside | inside
  · exact eq_of_keywords_begin_alike inside
  · exact (eq_of_keywords_begin_alike inside).symm

/-- The setting whose keyword starts a text is the only one, so the order of the keywords does not
matter. -/
theorem setting_keyword {name : SettingName} {keyword behind : List Char}
    (spells : SpellsWord name.keyword.toList keyword) :
    TokenRule.setting (keyword ++ behind) =
      some (.setting name (TokenRule.settingValue behind).1,
        (TokenRule.settingValue behind).2) := by
  have found := spells.dropWord_append behind
  cases accepted : TokenRule.setting (keyword ++ behind) with
  | none =>
    -- the keyword itself would have been accepted
    have declined := List.findSome?_eq_none_iff.1 accepted name name.mem_all
    rw [found] at declined
    cases declined
  | some taken =>
    obtain ⟨other, -, named⟩ := List.exists_of_findSome?_eq_some accepted
    obtain ⟨after, word, made⟩ := Option.map_eq_some_iff.1 named
    obtain ⟨spelling, whole, otherSpells⟩ := dropWordIgnoringCase_eq_some_iff.1 word
    obtain rfl := eq_of_spellsWord spells ⟨behind, rfl⟩ otherSpells ⟨after, whole.symm⟩
    obtain rfl := Option.some.inj (word.symm.trans found)
    rw [made]

theorem settingValue_bare {rest : List Char} (bare : rest.head? ≠ some ':') :
    TokenRule.settingValue rest = (none, rest) := by
  unfold TokenRule.settingValue
  split
  · exact absurd rfl bare
  · rfl

theorem settingValue_valued {value rest : List Char}
    (isRun : IsRun (fun c => !(isBlank c || c = ')')) value rest) :
    TokenRule.settingValue (':' :: (value ++ rest)) = (some (String.ofList value), rest) := by
  have taken : (value ++ rest).takeWhile TokenRule.isValueChar = value := isRun.takeWhile_append
  have left : (value ++ rest).dropWhile TokenRule.isValueChar = rest := isRun.dropWhile_append
  rw [TokenRule.settingValue, taken, left]

theorem setting_follows : TokenRule.setting.Follows WritesSetting := by
  intro text kind rest
  constructor
  · intro accepted
    obtain ⟨name, -, named⟩ := List.exists_of_findSome?_eq_some accepted
    obtain ⟨behind, word, made⟩ := Option.map_eq_some_iff.1 named
    obtain ⟨keyword, rfl, spells⟩ := dropWordIgnoringCase_eq_some_iff.1 word
    obtain ⟨rfl, rfl⟩ := Prod.mk.inj made
    -- a colon makes a value of what is behind it, even of nothing
    by_cases colon : behind.head? = some ':'
    · obtain ⟨after, rfl⟩ := List.head?_eq_some_iff.1 colon
      have run := IsRun.takeWhile TokenRule.isValueChar after
      have whole : after.takeWhile TokenRule.isValueChar ++
          after.dropWhile TokenRule.isValueChar = after := List.takeWhile_append_dropWhile
      have written := WritesSetting.valued spells run
      rw [whole] at written
      exact written
    · rw [settingValue_bare colon]
      exact .bare spells colon
  · intro written
    cases written with
    | bare spells bare => rw [setting_keyword spells, settingValue_bare bare]
    | valued spells isRun => rw [setting_keyword spells, settingValue_valued isRun]

/-! ### Counts -/

/-- The mark for distinct modules at the front of a text, and the text behind it. -/
def takeMark : List Char → Bool × List Char
  | '!' :: rest => (true, rest)
  | rest => (false, rest)

theorem takeMark_append {mark rest : List Char} {unique : Bool}
    (marked : mark = if unique then ['!'] else []) (other : rest.head? ≠ some '!') :
    takeMark (mark ++ rest) = (unique, rest) := by
  cases unique with
  | true =>
    rw [marked]
    rfl
  | false =>
    have unmarked : mark = [] := marked
    rw [unmarked, List.nil_append]
    unfold takeMark
    split
    · exact absurd rfl other
    · rfl

theorem takeMark_split (text : List Char) :
    text = (if (takeMark text).1 then ['!'] else []) ++ (takeMark text).2 := by
  unfold takeMark
  split <;> rfl

theorem takeCount_of_numeral {text rest : List Char} {count : Nat}
    (taken : takeShortNumeral text = some (count, rest)) :
    TokenRule.takeCount text =
      match skipBlanks (takeMark rest).2 with
      | [] => none
      | sign :: left =>
        if sign = ';' || sign = '*' then some (count, (takeMark rest).1, skipBlanks left)
        else none := by
  unfold TokenRule.takeCount
  rw [taken]
  cases rest with
  | nil => rfl
  | cons c rest =>
    by_cases mark : c = '!'
    · subst mark
      rfl
    · cases behind : skipBlanks (c :: rest) <;> simp [takeMark, mark, behind]

/-- What may stand in front of the sign of a count. -/
def StartsSign (text : List Char) : Prop :=
  ∀ c, text.head? = some c → isBlank c = true ∨ c = ';' ∨ c = '*'

theorem startsSign_append {before : List Char} {sign : Char} (signed : sign = ';' ∨ sign = '*')
    (blanks : ∀ c ∈ before, isBlank c = true) (behind : List Char) :
    StartsSign (before ++ sign :: behind) := by
  intro c first
  cases before with
  | nil =>
    obtain rfl := Option.some.inj first
    exact .inr signed
  | cons b before =>
    obtain rfl := Option.some.inj first
    exact .inl (blanks b List.mem_cons_self)

theorem StartsSign.not_mark {text : List Char} (starts : StartsSign text) :
    text.head? ≠ some '!' := by
  intro first
  rcases starts '!' first with blank | other | other
  · cases blank
  · cases other
  · cases other

theorem StartsSign.not_isDigit {text mark : List Char} {unique : Bool} (starts : StartsSign text)
    (marked : mark = if unique then ['!'] else []) :
    ∀ c, (mark ++ text).head? = some c → c.isDigit = false := by
  intro c first
  have some : c = '!' ∨ isBlank c = true ∨ c = ';' ∨ c = '*' := by
    cases unique with
    | true => exact .inl (by simpa [marked] using first.symm)
    | false => exact .inr (starts c (by simpa [marked] using first))
  cases digit : c.isDigit with
  | false => rfl
  | true =>
    rcases some with rfl | blank | rfl | rfl
    · cases digit
    · cases (isBlank_of_isDigit digit).symm.trans blank
    · cases digit
    · cases digit

theorem IsCount.takeCount_append {spelling after : List Char} {count : Nat} {unique : Bool}
    (isCount : IsCount spelling count unique)
    (stops : ∀ c, after.head? = some c → isBlank c = false) :
    TokenRule.takeCount (spelling ++ after) = some (count, unique, after) := by
  cases isCount with
  | @mk digits mark before behind _ _ sign numeral marked beforeBlank signed behindBlank =>
    -- behind the digits stands a mark, a blank or the sign, and none of them is a digit
    have starts := startsSign_append signed beforeBlank (behind ++ after)
    have taken : takeShortNumeral (digits ++ (mark ++ (before ++ sign :: (behind ++ after)))) =
        some (count, mark ++ (before ++ sign :: (behind ++ after))) :=
      takeShortNumeral_eq_some_iff.2 ⟨digits, rfl, numeral, starts.not_isDigit marked⟩
    -- the blanks on both sides of the sign are skipped whole
    have solid : isBlank sign = false := by rcases signed with rfl | rfl <;> rfl
    have toSign : skipBlanks (before ++ sign :: (behind ++ after)) = sign :: (behind ++ after) :=
      IsRun.dropWhile_append ⟨beforeBlank, by simp [solid]⟩
    have toAfter : skipBlanks (behind ++ after) = after :=
      IsRun.dropWhile_append ⟨behindBlank, stops⟩
    simp only [List.append_assoc, List.cons_append]
    rw [takeCount_of_numeral taken, takeMark_append marked starts.not_mark, toSign]
    dsimp only
    rw [if_pos (by simpa using signed), toAfter]

theorem isCount_of_takeCount {text after : List Char} {count : Nat} {unique : Bool}
    (taken : TokenRule.takeCount text = some (count, unique, after)) :
    ∃ spelling, text = spelling ++ after ∧ IsCount spelling count unique ∧
      ∀ c, after.head? = some c → isBlank c = false := by
  cases found : takeShortNumeral text with
  | none =>
    unfold TokenRule.takeCount at taken
    rw [found] at taken
    cases taken
  | some numeralAndRest =>
    obtain ⟨n, left⟩ := numeralAndRest
    rw [takeCount_of_numeral found] at taken
    obtain ⟨digits, rfl, numeral, -⟩ := takeShortNumeral_eq_some_iff.1 found
    -- every part was cut off the text, so together they make it up again
    have markSplit := takeMark_split left
    have beforeRun := IsRun.takeWhile isBlank (takeMark left).2
    have beforeSplit := @List.takeWhile_append_dropWhile Char isBlank (takeMark left).2
    split at taken
    · cases taken
    next sign behind toSign =>
      split at taken
      next isSign =>
        obtain ⟨rfl, rfl, rfl⟩ := by simpa using taken
        have behindRun := IsRun.takeWhile isBlank behind
        have behindSplit := @List.takeWhile_append_dropWhile Char isBlank behind
        have signed : sign = ';' ∨ sign = '*' := by simpa using isSign
        refine ⟨_, ?_, .mk numeral rfl beforeRun.inside signed behindRun.inside,
          behindRun.stops⟩
        have whole : (takeMark left).2 = (takeMark left).2.takeWhile isBlank ++ sign ::
            (behind.takeWhile isBlank ++ skipBlanks behind) := by
          rw [skipBlanks, behindSplit, ← toSign, skipBlanks, beforeSplit]
        rw [List.append_assoc, List.append_assoc, List.append_assoc, List.cons_append, ← whole,
          ← markSplit]
      · cases taken

theorem GoesOn.not_blank {text : List Char} (goesOn : GoesOn text) :
    ∀ c, text.head? = some c → isBlank c = false := by
  obtain ⟨c, rest, rfl, solid, -⟩ := goesOn
  intro d first
  obtain rfl := Option.some.inj first
  exact solid

end BombMission
