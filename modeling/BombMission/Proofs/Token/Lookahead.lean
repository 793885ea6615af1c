import BombMission.Proofs.Token.Recognition

/-!
# How far a token looks ahead

No rule of the grammar looks further than one character behind its token. A word ends in front of a
blank, a bare keyword in front of anything but a colon, and a pool where its body cannot go on. So a
token that ends in some front of a text stays as it is when the text behind that front is replaced,
as long as both texts `Joins` the front: they start with a character that would go on with a word or
a body and sets off nothing.

## Main results

* `FirstOf.keeps`: the token at the front of a text does not depend on what is ahead of it.
* `IsGap.keeps`: the same of the blanks and comments in front of a token.

## Proof strategy

A rule that writes a token within the front does so whatever is ahead, by a lemma for each rule. The
rules in front of it might start to apply, and would have to run past the front. But then the front
is one unbroken word, while a token that ends within it leaves a blank, a bracket or a keyword there.
-/

namespace BombMission

open Text

/-- The first character of a text goes on with a word or a body in front of it, and sets off neither
a value nor a count. -/
def Joins (text : List Char) : Prop :=
  ∃ c rest, text = c :: rest ∧ isBlank c = false ∧ c ∉ [')', ':', ';', '*', '!']

/-- Whether no word and no count goes on behind a character. -/
def isBreak (c : Char) : Bool :=
  isBlank c || c = '(' || c = ')'

/-- A rule that writes a token in front of one text does so in front of the other. -/
def GrammarRule.Keeps (rule : GrammarRule) (ahead ahead' : List Char) : Prop :=
  ∀ {spelling middle : List Char} {kind : TokenKind},
    rule (spelling ++ (middle ++ ahead)) kind (middle ++ ahead) →
      rule (spelling ++ (middle ++ ahead')) kind (middle ++ ahead')

/-- A rule that declines a text declines it with the other text ahead. -/
def GrammarRule.StaysAway (rule : GrammarRule) (front ahead ahead' : List Char) : Prop :=
  (∀ kind rest, ¬ rule (front ++ ahead) kind rest) →
    ∀ kind rest, ¬ rule (front ++ ahead') kind rest

/-! ### Rules by their spelling -/

section Spelled

variable {spelling rest : List Char} {kind : TokenKind}

theorem closesGroup_append_iff :
    ClosesGroup (spelling ++ rest) kind rest ↔ spelling = [')'] ∧ kind = .groupClose := by
  constructor
  · intro closes
    generalize whole : spelling ++ rest = text at closes
    cases closes
    exact ⟨List.append_cancel_right (whole.trans (List.singleton_append ..).symm), rfl⟩
  · rintro ⟨rfl, rfl⟩
    exact .mk

/-- A time with or without its label. -/
def IsTimeWord (spelling : List Char) (seconds : Nat) : Prop :=
  ∃ label clock, spelling = label ++ clock ∧
    (label = [] ∨ SpellsWord "time:".toList label) ∧ IsClock clock seconds

theorem writesTime_append_iff :
    WritesTime (spelling ++ rest) kind rest ↔
      (∃ seconds, IsTimeWord spelling seconds ∧ kind = .time seconds) ∧ EndsWord rest := by
  constructor
  · intro written
    generalize whole : spelling ++ rest = text at written
    cases written with
    | @plain clock _ seconds isClock ends =>
      obtain rfl := List.append_cancel_right whole
      exact ⟨⟨seconds, ⟨[], spelling, rfl, .inl rfl, isClock⟩, rfl⟩, ends⟩
    | @labelled label clock _ seconds spells isClock ends =>
      rw [← List.append_assoc] at whole
      obtain rfl := List.append_cancel_right whole
      exact ⟨⟨seconds, ⟨label, clock, rfl, .inr spells, isClock⟩, rfl⟩, ends⟩
  · rintro ⟨⟨seconds, ⟨label, clock, rfl, rfl | spells, isClock⟩, rfl⟩, ends⟩
    · exact .plain isClock ends
    · rw [List.append_assoc]
      exact .labelled spells isClock ends

theorem writesStrikes_append_iff :
    WritesStrikes (spelling ++ rest) kind rest ↔
      (∃ digits x limit, spelling = digits ++ [x] ∧ IsShortNumeral digits limit ∧
        (x = 'x' ∨ x = 'X') ∧ kind = .strikes limit) ∧ EndsWord rest := by
  constructor
  · intro written
    generalize whole : spelling ++ rest = text at written
    cases written with
    | @mk digits _ limit x numeral marked ends =>
      rw [List.append_cons] at whole
      exact ⟨⟨digits, x, limit, List.append_cancel_right whole, numeral, marked, rfl⟩, ends⟩
  · rintro ⟨⟨digits, x, limit, rfl, numeral, marked, rfl⟩, ends⟩
    rw [← List.append_cons]
    exact .mk numeral marked ends

theorem writesSetting_append_iff :
    WritesSetting (spelling ++ rest) kind rest ↔
      ∃ name : SettingName, ∃ keyword, SpellsWord name.keyword.toList keyword ∧
        ((spelling = keyword ∧ kind = .setting name none ∧ rest.head? ≠ some ':') ∨
          ∃ value, spelling = keyword ++ ':' :: value ∧
            kind = .setting name (some (String.ofList value)) ∧
            IsRun (fun c => !(isBlank c || c = ')')) value rest) := by
  constructor
  · intro written
    generalize whole : spelling ++ rest = text at written
    cases written with
    | @bare keyword _ name spells bare =>
      exact ⟨name, keyword, spells, .inl ⟨List.append_cancel_right whole, rfl, bare⟩⟩
    | @valued keyword value _ name spells isRun =>
      rw [← List.cons_append, ← List.append_assoc] at whole
      exact ⟨name, keyword, spells, .inr ⟨value, List.append_cancel_right whole, rfl, isRun⟩⟩
  · rintro ⟨name, keyword, spells, ⟨rfl, rfl, bare⟩ | ⟨value, rfl, rfl, isRun⟩⟩
    · exact .bare spells bare
    · rw [List.append_assoc, List.cons_append]
      exact .valued spells isRun

theorem opensOrFills_append_iff {count : Option Nat} {unique : Bool} :
    OpensOrFills count unique (spelling ++ rest) kind rest ↔
      (spelling = ['('] ∧ kind = .groupOpen count) ∨
        ∃ unclosed pool, spelling.head? ≠ some '(' ∧ IsPoolBody spelling rest unclosed ∧
          IsPoolText count unique spelling unclosed pool ∧ kind = .pool pool := by
  constructor
  · intro written
    generalize whole : spelling ++ rest = text at written
    cases written with
    | opens =>
      exact .inl ⟨List.append_cancel_right (whole.trans (List.singleton_append ..).symm), rfl⟩
    | @fills body _ unclosed pool other isBody means =>
      obtain rfl := List.append_cancel_right whole
      rw [List.head?_append_of_ne_nil _ isBody.nonempty] at other
      exact .inr ⟨unclosed, pool, other, isBody, means, rfl⟩
  · rintro (⟨rfl, rfl⟩ | ⟨unclosed, pool, other, isBody, means, rfl⟩)
    · exact .opens
    · refine .fills ?_ isBody means
      rwa [List.head?_append_of_ne_nil _ isBody.nonempty]

end Spelled

/-! ### What is ahead -/

section Ahead

variable {ahead ahead' middle : List Char}

/-- A character that cannot join what stands in front of it is within the front itself. -/
theorem Joins.exists_cons (joins : Joins ahead) (p : Char → Prop)
    (apart : ∀ c, isBlank c = false → c ∉ [')', ':', ';', '*', '!'] → ¬ p c) {c : Char}
    {more : List Char} (whole : middle ++ ahead = c :: more) (holds : p c) :
    ∃ inner, middle = c :: inner := by
  cases middle with
  | nil =>
    obtain ⟨d, rest, rfl, solid, plain⟩ := joins
    obtain ⟨rfl, -⟩ := List.cons.inj whole
    exact absurd holds (apart _ solid plain)
  | cons d inner =>
    obtain ⟨rfl, -⟩ := List.cons.inj whole
    exact ⟨inner, rfl⟩

theorem Joins.append_ne_nil (joins : Joins ahead) (middle : List Char) : middle ++ ahead ≠ [] := by
  obtain ⟨c, rest, rfl, -⟩ := joins
  simp

theorem Joins.goesOn (joins : Joins ahead) : GoesOn ahead := by
  obtain ⟨c, rest, rfl, solid, plain⟩ := joins
  refine ⟨c, rest, rfl, solid, ?_⟩
  rintro rfl
  exact plain (by decide)

/-- A word that ends in front of some text ends at a blank of its own. -/
theorem EndsWord.exists_blank (joins : Joins ahead) (ends : EndsWord (middle ++ ahead)) :
    ∃ c inner, middle = c :: inner ∧ isBlank c = true := by
  obtain ⟨c, more, whole⟩ := List.exists_cons_of_ne_nil (joins.append_ne_nil middle)
  have blank : isBlank c = true := ends c (by rw [whole]; rfl)
  obtain ⟨inner, rfl⟩ := joins.exists_cons (fun c => isBlank c = true)
    (fun d solid _ => by simp [solid]) whole blank
  exact ⟨c, inner, rfl, blank⟩

theorem EndsWord.keeps (joins : Joins ahead) (ends : EndsWord (middle ++ ahead))
    (ahead' : List Char) : EndsWord (middle ++ ahead') := by
  obtain ⟨c, inner, rfl, blank⟩ := ends.exists_blank joins
  intro d first
  obtain rfl := Option.some.inj first
  exact blank

theorem GoesOn.keeps (joins : Joins ahead) (goesOn : GoesOn (middle ++ ahead')) :
    GoesOn (middle ++ ahead) := by
  cases middle with
  | nil => exact joins.goesOn
  | cons c inner =>
    obtain ⟨d, rest, whole, solid, inside⟩ := goesOn
    obtain ⟨rfl, -⟩ := List.cons.inj whole
    exact ⟨c, inner ++ ahead, rfl, solid, inside⟩

/-! ### Tokens within the front -/

theorem ClosesGroup.keeps : GrammarRule.Keeps ClosesGroup ahead ahead' := by
  intro spelling middle kind closes
  exact closesGroup_append_iff.2 (closesGroup_append_iff.1 closes)

theorem WritesTime.keeps (joins : Joins ahead) : GrammarRule.Keeps WritesTime ahead ahead' := by
  intro spelling middle kind written
  obtain ⟨spells, ends⟩ := writesTime_append_iff.1 written
  exact writesTime_append_iff.2 ⟨spells, ends.keeps joins ahead'⟩

theorem WritesStrikes.keeps (joins : Joins ahead) :
    GrammarRule.Keeps WritesStrikes ahead ahead' := by
  intro spelling middle kind written
  obtain ⟨spells, ends⟩ := writesStrikes_append_iff.1 written
  exact writesStrikes_append_iff.2 ⟨spells, ends.keeps joins ahead'⟩

/-- A run stops at a character of the front, or goes on to what is ahead. -/
theorem IsRun.keeps {ofClass : Char → Bool} {run : List Char}
    (apart : ∀ c, ofClass c = false → isBlank c = true ∨ c ∈ [')', ':', ';', '*', '!'])
    (joins : Joins ahead) (isRun : IsRun ofClass run (middle ++ ahead)) :
    IsRun ofClass run (middle ++ ahead') := by
  refine ⟨isRun.inside, ?_⟩
  obtain ⟨c, more, whole⟩ := List.exists_cons_of_ne_nil (joins.append_ne_nil middle)
  have stops : ofClass c = false := isRun.stops c (by rw [whole]; rfl)
  obtain ⟨inner, rfl⟩ := joins.exists_cons (fun c => ofClass c = false)
    (fun d solid plain outside => by
      rcases apart d outside with blank | sign
      · cases blank.symm.trans solid
      · exact plain sign) whole stops
  intro d first
  obtain rfl := Option.some.inj first
  exact stops

theorem WritesSetting.keeps (joins : Joins ahead) (joins' : Joins ahead') :
    GrammarRule.Keeps WritesSetting ahead ahead' := by
  intro spelling middle kind written
  obtain ⟨name, keyword, spells, ⟨rfl, rfl, bare⟩ | ⟨value, rfl, rfl, isRun⟩⟩ :=
    writesSetting_append_iff.1 written
  · refine writesSetting_append_iff.2 ⟨name, spelling, spells, .inl ⟨rfl, rfl, ?_⟩⟩
    -- a colon would have to stand in the front, and none does
    intro colon
    obtain ⟨more, whole⟩ := List.head?_eq_some_iff.1 colon
    obtain ⟨inner, rfl⟩ := joins'.exists_cons (fun c => c = ':')
      (fun d _ plain colon => plain (by simp [colon])) whole rfl
    exact bare rfl
  · refine writesSetting_append_iff.2 ⟨name, keyword, spells, .inr ⟨value, rfl, rfl, ?_⟩⟩
    refine isRun.keeps ?_ joins
    intro c outside
    have either : isBlank c = true ∨ c = ')' := by
      rwa [Bool.not_eq_false', Bool.or_eq_true, decide_eq_true_eq] at outside
    exact either.imp_right fun closes => by simp [closes]

/-- A reader of bodies takes a character in or stops at it, whatever stands behind it. -/
theorem splitBody_cons_cases (position : BodyPosition) (c : Char) :
    (∃ next, ∀ text, splitBody position (c :: text) = (splitBody next text).cons c) ∨
      ((isBlank c = true ∨ c = ')') ∧
        ∀ text, splitBody position (c :: text) = ⟨[], c :: text, false⟩) := by
  cases position with
  | quoted mark => exact .inl ⟨if c = mark then .plain else .quoted mark, fun _ => splitBody.eq_3 ..⟩
  | separated =>
    by_cases blank : isBlank c = true
    · exact .inl ⟨.separated, fun text => by rw [splitBody, if_pos blank]⟩
    · by_cases closes : c = ')'
      · exact .inr ⟨.inr closes, fun text => by rw [splitBody, if_neg blank, if_pos closes]⟩
      · exact .inl ⟨.after c, fun text => by rw [splitBody, if_neg blank, if_neg closes]⟩
  | plain =>
    by_cases stops : isBlank c = true ∨ c = ')'
    · exact .inr ⟨stops, fun text => by rw [splitBody, if_pos (by simpa using stops)]⟩
    · exact .inl ⟨.after c, fun text => by rw [splitBody, if_neg (by simpa using stops)]⟩

/-- A body that ends in front of a character ends there whatever stands behind that character. -/
theorem splitBody_stops {position : BodyPosition} {body more : List Char} {c : Char}
    {unclosed : Bool}
    (split : splitBody position (body ++ c :: more) = ⟨body, c :: more, unclosed⟩) :
    (isBlank c = true ∨ c = ')') ∧
      ∀ more', splitBody position (body ++ c :: more') = ⟨body, c :: more', unclosed⟩ := by
  induction body generalizing position with
  | nil =>
    rcases splitBody_cons_cases position c with ⟨next, taken⟩ | ⟨stops, ended⟩
    · rw [List.nil_append, taken] at split
      cases congrArg BodySplit.spelling split
    · refine ⟨stops, fun more' => ?_⟩
      have flag : false = unclosed :=
        congrArg BodySplit.unclosedQuote ((ended more).symm.trans split)
      rw [List.nil_append, ended, ← flag]
  | cons b body ih =>
    rcases splitBody_cons_cases position b with ⟨next, taken⟩ | ⟨-, ended⟩
    · have inner : splitBody next (body ++ c :: more) = ⟨body, c :: more, unclosed⟩ := by
        rw [List.cons_append, taken] at split
        cases found : splitBody next (body ++ c :: more) with
        | mk own left flag =>
          rw [found] at split
          obtain ⟨spelled, left, open_⟩ := BodySplit.mk.inj split
          exact congr (congr (congrArg BodySplit.mk (List.cons.inj spelled).2) left) open_
      obtain ⟨stops, whatever⟩ := ih inner
      refine ⟨stops, fun more' => ?_⟩
      rw [List.cons_append, taken, whatever]
      rfl
    · rw [List.cons_append, ended] at split
      cases congrArg BodySplit.spelling split

theorem IsPoolBody.exists_break {body : List Char} {unclosed : Bool} (joins : Joins ahead)
    (isBody : IsPoolBody body (middle ++ ahead) unclosed) :
    ∃ c inner, middle = c :: inner ∧ isBreak c = true ∧
      IsPoolBody body (c :: (inner ++ ahead')) unclosed := by
  obtain ⟨c, more, whole⟩ := List.exists_cons_of_ne_nil (joins.append_ne_nil middle)
  rw [whole] at isBody
  obtain ⟨split, nonempty⟩ := splitBody_plain_iff.2 isBody
  obtain ⟨stops, whatever⟩ := splitBody_stops split
  obtain ⟨inner, rfl⟩ := joins.exists_cons (fun c => isBlank c = true ∨ c = ')')
    (fun d solid plain => by
      rintro (blank | rfl)
      · cases blank.symm.trans solid
      · exact plain (by decide)) whole stops
  refine ⟨c, inner, rfl, ?_, splitBody_plain_iff.1 ⟨whatever _, nonempty⟩⟩
  rcases stops with blank | rfl
  · simp [isBreak, blank]
  · rfl

theorem OpensOrFills.keeps (joins : Joins ahead) (count : Option Nat) (unique : Bool) :
    GrammarRule.Keeps (OpensOrFills count unique) ahead ahead' := by
  intro spelling middle kind written
  rcases opensOrFills_append_iff.1 written with opens | ⟨unclosed, pool, other, isBody, means, made⟩
  · exact opensOrFills_append_iff.2 (.inl opens)
  · obtain ⟨c, inner, rfl, -, kept⟩ := isBody.exists_break joins
    exact opensOrFills_append_iff.2 (.inr ⟨unclosed, pool, other, kept, means, made⟩)

/-- A group or a pool that ends within the front leaves a break there. -/
theorem OpensOrFills.exists_break {count : Option Nat} {unique : Bool} {spelling : List Char}
    {kind : TokenKind} (joins : Joins ahead)
    (written : OpensOrFills count unique (spelling ++ (middle ++ ahead)) kind (middle ++ ahead)) :
    ∃ c ∈ spelling ++ middle, isBreak c = true := by
  rcases opensOrFills_append_iff.1 written with ⟨rfl, -⟩ | ⟨unclosed, pool, -, isBody, -, -⟩
  · exact ⟨'(', by simp, rfl⟩
  · obtain ⟨c, inner, rfl, breaks, -⟩ := @IsPoolBody.exists_break _ [] _ _ _ joins isBody
    exact ⟨c, by simp, breaks⟩

/-! ### Rules that would run past the front -/

theorem not_isBreak_of_isDigit {c : Char} (digit : c.isDigit = true) : isBreak c = false := by
  have solid := isBlank_of_isDigit digit
  have others : c ≠ '(' ∧ c ≠ ')' := by
    constructor
    · rintro rfl
      cases digit
    · rintro rfl
      cases digit
  simp [isBreak, solid, others]

/-- No break is a letter, so it has no other case. -/
theorem toLower_of_isBreak {c : Char} (breaks : isBreak c = true) : c.toLower = c := by
  refine dif_neg ?_
  rintro ⟨low, high⟩
  have lower : 65 ≤ c.toNat := low
  have upper : c.toNat ≤ 90 := high
  have solid : isBlank c = false := by
    simp [isBlank]
    omega
  have brackets : c = '(' ∨ c = ')' := by simpa [isBreak, solid] using breaks
  rcases brackets with rfl | rfl
  · exact absurd lower (by decide)
  · exact absurd lower (by decide)

/-- A word without breaks has none however it is spelled. -/
theorem SpellsWord.not_isBreak {word spelling : List Char} (spells : SpellsWord word spelling)
    (solid : ∀ c ∈ word.map Char.toLower, isBreak c = false) :
    ∀ c ∈ spelling, isBreak c = false := by
  intro c member
  cases breaks : isBreak c with
  | false => rfl
  | true =>
    have lower : c.toLower ∈ word.map Char.toLower := spells ▸ List.mem_map_of_mem member
    rw [toLower_of_isBreak breaks] at lower
    exact breaks.symm.trans (solid c lower)

theorem IsShortNumeral.not_isBreak {digits : List Char} {n : Nat}
    (numeral : IsShortNumeral digits n) : ∀ c ∈ digits, isBreak c = false :=
  fun c member => not_isBreak_of_isDigit (numeral.decimal c member)

theorem IsClock.not_isBreak {clock : List Char} {seconds : Nat} (isClock : IsClock clock seconds) :
    ∀ c ∈ clock, isBreak c = false := by
  intro c member
  cases isClock with
  | minutes first second =>
    rcases List.mem_append.1 member with digit | rest
    · exact first.not_isBreak c digit
    · rcases List.mem_cons.1 rest with rfl | digit
      · rfl
      · exact second.not_isBreak c digit
  | hours first second third =>
    rcases List.mem_append.1 member with digit | rest
    · exact first.not_isBreak c digit
    · rcases List.mem_cons.1 rest with rfl | rest
      · rfl
      · rcases List.mem_append.1 rest with digit | rest
        · exact second.not_isBreak c digit
        · rcases List.mem_cons.1 rest with rfl | digit
          · rfl
          · exact third.not_isBreak c digit

theorem IsTimeWord.not_isBreak {spelling : List Char} {seconds : Nat}
    (isTime : IsTimeWord spelling seconds) : ∀ c ∈ spelling, isBreak c = false := by
  obtain ⟨label, clock, rfl, labelled, isClock⟩ := isTime
  intro c member
  rcases List.mem_append.1 member with inLabel | inClock
  · rcases labelled with rfl | spells
    · cases inLabel
    · exact spells.not_isBreak (by simp [isBreak, isBlank]) c inLabel
  · exact isClock.not_isBreak c inClock

theorem SettingName.not_isBreak {name : SettingName} {keyword : List Char}
    (spells : SpellsWord name.keyword.toList keyword) : ∀ c ∈ keyword, isBreak c = false := by
  refine spells.not_isBreak ?_
  cases name <;> simp [isBreak, isBlank, SettingName.keyword]

/-- The keyword of a setting starts the text. -/
def StartsKeyword (text : List Char) : Prop :=
  ∃ name : SettingName, ∃ keyword, SpellsWord name.keyword.toList keyword ∧ keyword <+: text

/-- What a token that ends within a front leaves there: a break, or a keyword at the start. -/
def IsStopped (front : List Char) : Prop :=
  (∃ c ∈ front, isBreak c = true) ∨ StartsKeyword front

theorem not_startsKeyword_of_isDigit {c : Char} (digit : c.isDigit = true) (rest : List Char) :
    ¬ StartsKeyword (c :: rest) := by
  rintro ⟨name, keyword, spells, behind, whole⟩
  have found := spells.dropWord_append behind
  have letters : name.keyword.toList.head?.any (fun w => !w.toLower.isDigit) = true := by
    cases name <;> decide
  rw [whole, dropWord_of_isDigit digit letters] at found
  cases found

theorem StartsKeyword.append {front : List Char} (starts : StartsKeyword front)
    (behind : List Char) : StartsKeyword (front ++ behind) := by
  obtain ⟨name, keyword, spells, isPrefix⟩ := starts
  exact ⟨name, keyword, spells, isPrefix.trans (List.prefix_append ..)⟩

theorem WritesSetting.startsKeyword {spelling rest : List Char} {kind : TokenKind}
    (written : WritesSetting (spelling ++ rest) kind rest) : StartsKeyword spelling := by
  obtain ⟨name, keyword, spells, ⟨rfl, -⟩ | ⟨value, rfl, -⟩⟩ := writesSetting_append_iff.1 written
  · exact ⟨name, spelling, spells, List.prefix_refl _⟩
  · exact ⟨name, keyword, spells, List.prefix_append ..⟩

theorem IsTimeWord.not_startsKeyword {spelling : List Char} {seconds : Nat}
    (isTime : IsTimeWord spelling seconds) : ¬ StartsKeyword spelling := by
  obtain ⟨label, clock, rfl, rfl | labelled, isClock⟩ := isTime
  · obtain ⟨c, rest, rfl, digit⟩ := isClock.exists_cons
    exact not_startsKeyword_of_isDigit digit rest
  · rintro ⟨name, keyword, spells, starts⟩
    have lower := starts.map Char.toLower
    have labelLower := (List.prefix_append label clock).map Char.toLower
    rw [spells] at lower
    rw [labelled] at labelLower
    -- both start one text, so one of them starts the other
    rcases List.prefix_or_prefix_of_prefix lower labelLower with inside | inside
    all_goals
      revert inside
      cases name <;> decide

/-- A word that a rule writes is not stopped before its end. -/
def GrammarRule.WritesWords (rule : GrammarRule) : Prop :=
  ∀ {spelling rest : List Char} {kind : TokenKind}, rule (spelling ++ rest) kind rest →
    (∀ c ∈ spelling, isBreak c = false) ∧ ¬ StartsKeyword spelling

theorem WritesTime.writesWords : GrammarRule.WritesWords WritesTime := by
  intro spelling rest kind written
  obtain ⟨⟨seconds, isTime, -⟩, -⟩ := writesTime_append_iff.1 written
  exact ⟨isTime.not_isBreak, isTime.not_startsKeyword⟩

theorem WritesStrikes.writesWords : GrammarRule.WritesWords WritesStrikes := by
  intro spelling rest kind written
  obtain ⟨⟨digits, x, limit, rfl, numeral, marked, -⟩, -⟩ := writesStrikes_append_iff.1 written
  constructor
  · intro c member
    rcases List.mem_append.1 member with digit | isMark
    · exact numeral.not_isBreak c digit
    · rcases marked with rfl | rfl <;>
      · obtain rfl := List.mem_singleton.1 isMark
        rfl
  · obtain ⟨c, behind, rfl, digit⟩ := numeral.exists_cons
    exact not_startsKeyword_of_isDigit digit _

/-- A rule for words that applies with the other text ahead has its word in the front, where it
applied before. -/
theorem GrammarRule.WritesWords.staysAway {rule : GrammarRule} {scanner : TokenRule}
    {front : List Char} (words : rule.WritesWords) (keeps : rule.Keeps ahead' ahead)
    (follows : scanner.Follows rule) (shortens : scanner.Shortens) (stopped : IsStopped front) :
    rule.StaysAway front ahead ahead' := by
  intro declined kind rest written
  obtain ⟨spelling, whole⟩ := (shortens _ _ _ ((follows _ _ _).2 written)).1
  rw [← whole] at written
  rcases List.append_eq_append_iff.1 whole with ⟨middle, rfl, rfl⟩ | ⟨beyond, rfl, rfl⟩
  · rw [List.append_assoc] at declined
    exact declined kind _ (keeps written)
  · obtain ⟨unbroken, other⟩ := words written
    rcases stopped with ⟨c, member, breaks⟩ | starts
    · cases breaks.symm.trans (unbroken c (List.mem_append_left _ member))
    · exact other (starts.append beyond)

theorem ClosesGroup.staysAway {front : List Char} (nonempty : front ≠ []) :
    GrammarRule.StaysAway ClosesGroup front ahead ahead' := by
  intro declined kind rest closes
  obtain ⟨c, inner, rfl⟩ := List.exists_cons_of_ne_nil nonempty
  cases closes
  exact declined _ _ .mk

theorem WritesSetting.staysAway {front : List Char} (broken : ∃ c ∈ front, isBreak c = true) :
    GrammarRule.StaysAway WritesSetting front ahead ahead' := by
  intro declined kind rest written
  obtain ⟨spelling, whole⟩ :=
    (TokenRule.setting_shortens _ _ _ ((setting_follows _ _ _).2 written)).1
  rw [← whole] at written
  obtain ⟨name, keyword, spells, starts⟩ := written.startsKeyword.append rest
  rw [whole] at starts
  -- a keyword within the front would have been taken before, and the front is no part of one
  rcases List.prefix_or_prefix_of_prefix starts (List.prefix_append front ahead') with
    ⟨behind, rfl⟩ | inside
  · rw [List.append_assoc] at declined
    exact declined _ _ ((setting_follows _ _ _).1 (setting_keyword spells))
  · obtain ⟨c, member, breaks⟩ := broken
    cases breaks.symm.trans (SettingName.not_isBreak spells c (inside.subset member))

/-- A count that runs past the front has nothing but digits there. -/
theorem IsCount.not_isBreak_front {front beyond : List Char} {c : Char} {count : Nat}
    {unique : Bool} (isCount : IsCount (front ++ c :: beyond) count unique)
    (solid : isBlank c = false) (plain : c ∉ [')', ':', ';', '*', '!']) : ∀ d ∈ front, isBreak d = false := by
  generalize whole : front ++ c :: beyond = spelling at isCount
  cases isCount with
  | @mk digits mark before behind _ _ sign numeral marked beforeBlank signed behindBlank =>
    -- the digits end behind the character, since no other part of a count can hold it
    rcases List.append_eq_append_iff.1 whole with ⟨inner, rfl, -⟩ | ⟨inner, rfl, rest⟩
    · intro d member
      exact numeral.not_isBreak d (List.mem_append_left _ member)
    · have member : c ∈ mark ++ (before ++ sign :: behind) := by simp [rest]
      have outside : c ≠ ';' ∧ c ≠ '*' ∧ c ≠ '!' := by simp_all
      simp only [List.mem_append, List.mem_cons] at member
      rcases member with inMark | inBefore | rfl | inBehind
      · cases unique <;> simp_all
      · cases solid.symm.trans (beforeBlank c inBefore)
      · rcases signed with rfl | rfl <;> simp_all
      · cases solid.symm.trans (behindBlank c inBehind)

theorem OpensOrFills.suffix {count : Option Nat} {unique : Bool} {text rest : List Char}
    {kind : TokenKind} (written : OpensOrFills count unique text kind rest) : rest <:+ text :=
  (TokenRule.groupOrPool_shortens _ _ _ _ _ ((groupOrPool_follows _ _ _ _ _).2 written)).1

theorem WritesGroupOrPool.keeps (joins : Joins ahead) (joins' : Joins ahead') :
    GrammarRule.Keeps WritesGroupOrPool ahead ahead' := by
  intro spelling middle kind written
  generalize whole : spelling ++ (middle ++ ahead) = text at written
  cases written with
  | @counted counts text _ count unique _ isCount goesOn made =>
    obtain ⟨inner, rfl⟩ := made.suffix
    rw [← List.append_assoc counts] at whole
    obtain rfl := List.append_cancel_right whole
    have goesOn' : GoesOn (inner ++ (middle ++ ahead')) := by
      rw [← List.append_assoc] at goesOn ⊢
      exact goesOn.keeps joins'
    rw [List.append_assoc]
    exact .counted isCount goesOn' (made.keeps joins _ _)
  | plain unused made =>
    subst whole
    obtain ⟨c, broken, breaks⟩ := made.exists_break joins
    refine .plain ?_ (made.keeps joins _ _)
    intro counts more count unique split isCount goesOn
    -- a count within the front was one before, and the front is no part of one
    rw [← List.append_assoc] at split
    rcases List.append_eq_append_iff.1 split with
      ⟨beyond, rfl, ahead_eq⟩ | ⟨behind, front_eq, rfl⟩
    · cases beyond with
      | nil =>
        rw [List.append_nil] at isCount
        refine unused _ ahead count unique (List.append_assoc ..).symm isCount joins.goesOn
      | cons d beyond =>
        obtain ⟨e, rest, same, solid, plain⟩ := joins'
        obtain ⟨rfl, -⟩ := List.cons.inj (same.symm.trans ahead_eq)
        cases breaks.symm.trans (isCount.not_isBreak_front solid plain c broken)
    · refine unused counts (behind ++ ahead) count unique ?_ isCount (goesOn.keeps joins)
      rw [← List.append_assoc, front_eq, List.append_assoc]

theorem WritesGroupOrPool.exists_break {spelling : List Char} {kind : TokenKind}
    (joins : Joins ahead)
    (written : WritesGroupOrPool (spelling ++ (middle ++ ahead)) kind (middle ++ ahead)) :
    ∃ c ∈ spelling ++ middle, isBreak c = true := by
  generalize whole : spelling ++ (middle ++ ahead) = text at written
  cases written with
  | @counted counts text _ count unique _ isCount goesOn made =>
    obtain ⟨inner, rfl⟩ := made.suffix
    rw [← List.append_assoc counts] at whole
    obtain rfl := List.append_cancel_right whole
    obtain ⟨c, member, breaks⟩ := made.exists_break joins
    exact ⟨c, by simpa [List.append_assoc] using List.mem_append_right counts member, breaks⟩
  | plain unused made =>
    subst whole
    exact made.exists_break joins

/-! ### Any token -/

/-- The token at the front of a text does not depend on what is ahead of the front it ends in. -/
theorem FirstOf.keeps (joins : Joins ahead) (joins' : Joins ahead') {spelling : List Char}
    {kind : TokenKind} (nonempty : spelling ++ middle ≠ [])
    (first : FirstOf tokenGrammar (spelling ++ (middle ++ ahead)) kind (middle ++ ahead)) :
    FirstOf tokenGrammar (spelling ++ (middle ++ ahead')) kind (middle ++ ahead') := by
  -- a rule that declined before declines still, for each of the rules behind it that may decide
  have closes : GrammarRule.StaysAway ClosesGroup (spelling ++ middle) ahead ahead' :=
    ClosesGroup.staysAway nonempty
  have times (stopped : IsStopped (spelling ++ middle)) :
      GrammarRule.StaysAway WritesTime (spelling ++ middle) ahead ahead' :=
    WritesTime.writesWords.staysAway (WritesTime.keeps joins') time_follows
      TokenRule.time_shortens stopped
  have strikes (stopped : IsStopped (spelling ++ middle)) :
      GrammarRule.StaysAway WritesStrikes (spelling ++ middle) ahead ahead' :=
    WritesStrikes.writesWords.staysAway (WritesStrikes.keeps joins') strikes_follows
      TokenRule.strikes_shortens stopped
  have blank {c : Char} {inner : List Char} (white : isBlank c = true) :
      ∃ d ∈ spelling ++ c :: inner, isBreak d = true :=
    ⟨c, by simp, by simp [isBreak, white]⟩
  simp only [GrammarRule.StaysAway, List.append_assoc] at closes times strikes
  cases first with
  | here written => exact .here (ClosesGroup.keeps written)
  | later notClose first =>
  refine .later (closes notClose) ?_
  cases first with
  | here written => exact .here (WritesTime.keeps joins written)
  | later notTime first =>
  cases first with
  | here written =>
    obtain ⟨c, inner, rfl, white⟩ := (writesStrikes_append_iff.1 written).2.exists_blank joins
    exact .later (times (.inl (blank white)) notTime) (.here (WritesStrikes.keeps joins written))
  | later notStrikes first =>
  cases first with
  | here written =>
    have stopped : IsStopped (spelling ++ middle) :=
      .inr (written.startsKeyword.append middle)
    exact .later (times stopped notTime)
      (.later (strikes stopped notStrikes) (.here (WritesSetting.keeps joins joins' written)))
  | later notSetting first =>
  cases first with
  | here written =>
    have broken := written.exists_break joins
    have settings : GrammarRule.StaysAway WritesSetting (spelling ++ middle) ahead ahead' :=
      WritesSetting.staysAway broken
    simp only [GrammarRule.StaysAway, List.append_assoc] at settings
    exact .later (times (.inl broken) notTime) (.later (strikes (.inl broken) notStrikes)
      (.later (settings notSetting) (.here (WritesGroupOrPool.keeps joins joins' written))))
  | later _ first => cases first

/-! ### Gaps -/

/-- The blanks and comments in front of a token do not depend on what is ahead of it. -/
theorem IsGap.keeps (joins : Joins ahead) {gap : List Char} (isGap : IsGap gap (middle ++ ahead)) :
    IsGap gap (middle ++ ahead') := by
  generalize whole : middle ++ ahead = rest at isGap
  induction isGap with
  | nil => exact .nil
  | blank white _ ih => exact .blank white (ih whole)
  | @lineComment body gap rest oneLine ended _ ih =>
    subst whole
    refine .lineComment oneLine ?_ (ih rfl)
    -- the newline that ends the comment is within the front
    rw [← List.append_assoc] at ended ⊢
    rcases ended with nothing | newline
    · exact absurd nothing (joins.append_ne_nil _)
    · obtain ⟨more, starts⟩ := List.head?_eq_some_iff.1 newline
      obtain ⟨inner, same⟩ := joins.exists_cons (fun c => isBlank c = true)
        (fun d solid _ => by simp [solid]) starts rfl
      exact .inr (by rw [same]; rfl)
  | blockComment first _ ih => exact .blockComment first (ih whole)
  | openComment => exact absurd whole (joins.append_ne_nil middle)

theorem StartsGap.keeps {front : List Char} (nonempty : front ≠ []) (joins' : Joins ahead')
    (slash : ahead'.head? = some '/' → ahead.head? = some '/')
    (starts : StartsGap (front ++ ahead')) : StartsGap (front ++ ahead) := by
  obtain ⟨c, inner, rfl⟩ := List.exists_cons_of_ne_nil nonempty
  rcases starts with ⟨d, first, white⟩ | line | block
  · exact .inl ⟨d, first, white⟩
  · obtain ⟨rfl, second⟩ := List.cons_prefix_cons.1 line
    cases inner with
    | nil =>
      obtain ⟨more, same⟩ := second
      obtain ⟨behind, rfl⟩ := List.head?_eq_some_iff.1 (slash (congrArg List.head? same.symm))
      exact .inr (.inl ⟨behind, rfl⟩)
    | cons d inner =>
      obtain ⟨rfl, -⟩ := List.cons_prefix_cons.1 second
      exact .inr (.inl ⟨inner ++ ahead, rfl⟩)
  · obtain ⟨rfl, second⟩ := List.cons_prefix_cons.1 block
    obtain ⟨more, same⟩ := second
    obtain ⟨behind, rfl⟩ := joins'.exists_cons (fun c => c = '*')
      (fun d _ plain star => plain (by simp [star])) same.symm rfl
    exact .inr (.inr ⟨behind ++ ahead, rfl⟩)

end Ahead

end BombMission
