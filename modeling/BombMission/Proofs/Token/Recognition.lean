import BombMission.Proofs.Token.Body
import Mathlib.Data.List.Forall2

/-!
# Scanning by the grammar

The scanner takes a token off the front of a text exactly when the grammar writes it there.

## Main results

`takeToken_eq_some_iff` says so of one token: every scanner rule follows a rule of the grammar, so the
first rule that accepts is the first that applies. `scanTokens_grammar` adds whole texts: the grammar
cuts a text into gaps and tokens in exactly one way, and that is how the scanner cuts it.
-/

namespace BombMission

open Text

/-! ### Groups and pools -/

theorem groupOrPool_of_not_bracket {text : List Char} (other : text.head? ≠ some '(')
    (count : Option Nat) (unique : Bool) :
    TokenRule.groupOrPool count unique text = TokenRule.pool count unique text := by
  unfold TokenRule.groupOrPool
  split
  · exact absurd rfl other
  · rfl

theorem groupOrPool_follows (count : Option Nat) (unique : Bool) :
    (TokenRule.groupOrPool count unique).Follows (OpensOrFills count unique) := by
  intro text kind rest
  -- an opening bracket decides at once, and else there is a pool or nothing
  by_cases bracket : text.head? = some '('
  · obtain ⟨behind, rfl⟩ := List.head?_eq_some_iff.1 bracket
    constructor
    · intro accepted
      obtain ⟨rfl, rfl⟩ := Prod.mk.inj (Option.some.inj accepted)
      exact .opens
    · intro written
      generalize whole : '(' :: behind = text at written bracket
      cases written with
      | opens =>
        obtain ⟨-, rfl⟩ := List.cons.inj whole
        rfl
      | fills other _ _ => exact absurd bracket other
  · rw [groupOrPool_of_not_bracket bracket]
    constructor
    · intro accepted
      simp only [TokenRule.pool, Option.ite_none_left_eq_some, Option.some.injEq,
        Prod.mk.injEq] at accepted
      obtain ⟨nonempty, rfl, rfl⟩ := accepted
      have covers := splitBody_append .plain text
      cases split : splitBody .plain text with
      | mk body left unclosed =>
        rw [split] at covers nonempty
        obtain rfl : body ++ left = text := covers
        exact .fills bracket (splitBody_plain_iff.1 ⟨split, nonempty⟩) (isPoolText_iff.2 rfl)
    · intro written
      cases written with
      | opens => exact absurd rfl bracket
      | @fills body _ unclosed pool _ isBody means =>
        obtain ⟨split, nonempty⟩ := splitBody_plain_iff.2 isBody
        have accepted : TokenRule.pool count unique (body ++ rest) =
            some (.pool ((⟨body, rest, unclosed⟩ : BodySplit).pool count unique), rest) := by
          rw [TokenRule.pool, split]
          exact if_neg nonempty
        rw [accepted, isPoolText_iff.1 means]

/-- A group or a pool is found wherever the text goes on. -/
theorem groupOrPool_eq_none_iff {count : Option Nat} {unique : Bool} {text : List Char} :
    TokenRule.groupOrPool count unique text = none ↔ ¬ GoesOn text := by
  cases text with
  | nil => simp [TokenRule.groupOrPool, TokenRule.pool, splitBody, GoesOn]
  | cons c text =>
    have goesOn : GoesOn (c :: text) ↔ ¬ (isBlank c = true ∨ c = ')') := by
      simp [GoesOn]
    rw [goesOn, Classical.not_not, ← @spelling_splitBody_plain_eq_nil c text]
    by_cases bracket : c = '('
    · subst bracket
      simp [TokenRule.groupOrPool, splitBody, isBlank, BodySplit.cons]
    · rw [groupOrPool_of_not_bracket (by simpa using bracket)]
      simp [TokenRule.pool]

/-- The last two scanner rules as one: a group or a pool with a count, or else without. -/
def TokenRule.groupOrPoolWithCount : TokenRule := fun text =>
  (counted text).or (groupOrPool none false text)

theorem counted_eq_of_isCount {spelling more : List Char} {count : Nat} {unique : Bool}
    (isCount : IsCount spelling count unique) (goesOn : GoesOn more) :
    TokenRule.counted (spelling ++ more) = TokenRule.groupOrPool (some count) unique more := by
  unfold TokenRule.counted
  rw [isCount.takeCount_append goesOn.not_blank]

theorem isCount_of_counted {text rest : List Char} {kind : TokenKind}
    (accepted : TokenRule.counted text = some (kind, rest)) :
    ∃ spelling more count unique, text = spelling ++ more ∧ IsCount spelling count unique ∧
      GoesOn more ∧ TokenRule.groupOrPool (some count) unique more = some (kind, rest) := by
  unfold TokenRule.counted at accepted
  split at accepted
  · cases accepted
  next count unique more taken =>
    obtain ⟨spelling, whole, isCount, -⟩ := isCount_of_takeCount taken
    refine ⟨spelling, more, count, unique, whole, isCount, ?_, accepted⟩
    -- a text that does not go on has no group and no pool to accept
    refine Classical.byContradiction fun stuck => ?_
    rw [groupOrPool_eq_none_iff.2 stuck] at accepted
    cases accepted

theorem groupOrPoolWithCount_follows :
    TokenRule.groupOrPoolWithCount.Follows WritesGroupOrPool := by
  intro text kind rest
  unfold TokenRule.groupOrPoolWithCount
  constructor
  · intro accepted
    cases counts : TokenRule.counted text with
    | some taken =>
      rw [counts, Option.some_or] at accepted
      obtain rfl := Option.some.inj accepted
      obtain ⟨spelling, more, count, unique, rfl, isCount, goesOn, made⟩ :=
        isCount_of_counted counts
      exact .counted isCount goesOn ((groupOrPool_follows _ _ _ _ _).1 made)
    | none =>
      -- the count was not used, so no reading of it has a group or a pool behind it
      rw [counts, Option.none_or] at accepted
      refine .plain ?_ ((groupOrPool_follows _ _ _ _ _).1 accepted)
      rintro spelling more count unique rfl isCount goesOn
      rw [counted_eq_of_isCount isCount goesOn] at counts
      exact groupOrPool_eq_none_iff.1 counts goesOn
  · intro written
    cases written with
    | counted isCount goesOn made =>
      rw [counted_eq_of_isCount isCount goesOn, (groupOrPool_follows _ _ _ _ _).2 made]
      rfl
    | plain unused made =>
      have declined : TokenRule.counted text = none := by
        cases counts : TokenRule.counted text with
        | none => rfl
        | some taken =>
          obtain ⟨spelling, more, count, unique, whole, isCount, goesOn, -⟩ :=
            isCount_of_counted counts
          exact absurd goesOn (unused spelling more count unique whole isCount)
      rw [declined, Option.none_or]
      exact (groupOrPool_follows _ _ _ _ _).2 made

/-! ### The first rule that applies -/

theorem findSome?_follows {rules : List TokenRule} {grammar : List GrammarRule}
    (follow : List.Forall₂ TokenRule.Follows rules grammar) (text : List Char) (kind : TokenKind)
    (rest : List Char) :
    (rules.findSome? fun rule => rule text) = some (kind, rest) ↔
      FirstOf grammar text kind rest := by
  -- the lists of rules go side by side, and the first rule decides or declines in both
  induction follow with
  | nil =>
    constructor
    · intro found
      cases found
    · intro first
      cases first
  | @cons rule grammarRule rules grammar follows _ ih =>
    constructor
    · intro found
      cases accepted : rule text with
      | some taken =>
        rw [List.findSome?_cons, accepted] at found
        obtain rfl := Option.some.inj found
        exact .here ((follows _ _ _).1 accepted)
      | none =>
        rw [List.findSome?_cons, accepted] at found
        refine .later ?_ (ih.1 found)
        intro otherKind otherRest written
        cases accepted.symm.trans ((follows _ _ _).2 written)
    · intro first
      cases first with
      | here written => rw [List.findSome?_cons, (follows _ _ _).2 written]
      | later other first =>
        have declined : rule text = none := by
          cases accepted : rule text with
          | none => rfl
          | some taken => exact absurd ((follows _ _ _).1 accepted) (other _ _)
        rw [List.findSome?_cons, declined]
        exact ih.2 first

open TokenRule in
theorem takeToken_eq_findSome? (text : List Char) :
    takeToken text =
      [close, time, strikes, setting, groupOrPoolWithCount].findSome? fun rule => rule text := by
  simp only [takeToken, tokenRules, groupOrPoolWithCount, List.findSome?_cons,
    List.findSome?_nil]
  cases counted text <;> cases groupOrPool none false text <;> rfl

/-- A token is taken off the front of a text exactly when the grammar writes it there. -/
theorem takeToken_eq_some_iff {text rest : List Char} {kind : TokenKind} :
    takeToken text = some (kind, rest) ↔ FirstOf tokenGrammar text kind rest := by
  rw [takeToken_eq_findSome?]
  refine findSome?_follows ?_ text kind rest
  exact .cons close_follows (.cons time_follows (.cons strikes_follows (.cons setting_follows
    (.cons groupOrPoolWithCount_follows .nil))))

/-! ### Numerals at the front -/

section Numeral

variable {digits behind : List Char} {n : Nat} {c : Char} (numeral : IsShortNumeral digits n)
include numeral

theorem IsShortNumeral.takeShortNumeral_cons (stops : c.isDigit = false) :
    takeShortNumeral (digits ++ c :: behind) = some (n, c :: behind) := by
  refine takeShortNumeral_eq_some_iff.2 ⟨digits, rfl, numeral, ?_⟩
  intro d first
  obtain rfl := Option.some.inj first
  exact stops

theorem close_of_numeral : TokenRule.close (digits ++ behind) = none := by
  obtain ⟨d, more, rfl, digit⟩ := numeral.exists_cons
  unfold TokenRule.close
  split
  next bracket =>
    obtain ⟨rfl, -⟩ := List.cons.inj bracket
    cases digit
  · rfl

/-- No colon stands behind the numeral, so it is no time. -/
theorem time_of_numeral (stops : c.isDigit = false) (other : c ≠ ':') :
    TokenRule.time (digits ++ c :: behind) = none := by
  have unlabelled : dropWordIgnoringCase "time:".toList (digits ++ c :: behind) = none := by
    obtain ⟨d, more, rfl, digit⟩ := numeral.exists_cons
    exact dropWord_of_isDigit digit (by decide) _
  have noField : Clock.takeField (c :: behind) = none := by
    unfold Clock.takeField
    split
    next same => exact absurd (List.cons.inj same).1 other
    · rfl
  have noClock : Clock.read (digits ++ c :: behind) = none := by
    simp only [Clock.read, numeral.takeShortNumeral_cons stops, noField]
  simp only [TokenRule.time, unlabelled, Option.getD_none, noClock]

theorem strikes_of_numeral (stops : c.isDigit = false) (other : c ≠ 'x' ∧ c ≠ 'X') :
    TokenRule.strikes (digits ++ c :: behind) = none := by
  simp [TokenRule.strikes, numeral.takeShortNumeral_cons stops, other]

theorem setting_of_numeral : TokenRule.setting (digits ++ behind) = none := by
  obtain ⟨d, more, rfl, digit⟩ := numeral.exists_cons
  apply List.findSome?_eq_none_iff.2
  intro name _
  rw [Option.map_eq_none_iff]
  apply dropWord_of_isDigit digit
  cases name <;> decide

/-- A numeral and an `X` that end a word are a strike limit. -/
theorem takeToken_strikes {x : Char} (marked : x = 'x' ∨ x = 'X') (ends : EndsWord behind) :
    takeToken (digits ++ x :: behind) = some (.strikes n, behind) := by
  have stops : x.isDigit = false ∧ x ≠ ':' := by rcases marked with rfl | rfl <;> decide
  have accepted := (strikes_follows _ _ _).2 (.mk numeral marked ends)
  simp only [takeToken, tokenRules, List.findSome?_cons, close_of_numeral numeral,
    time_of_numeral numeral stops.1 stops.2, accepted]

end Numeral

/-- The digits of a count stand in front of a mark, a blank or the sign. -/
theorem IsCount.exists_numeral {spelling : List Char} {count : Nat} {unique : Bool}
    (isCount : IsCount spelling count unique) :
    ∃ digits c rest, spelling = digits ++ c :: rest ∧ IsShortNumeral digits count ∧
      (isBlank c = true ∨ c ∈ ['!', ';', '*']) := by
  cases isCount with
  | @mk digits mark before behind _ _ sign numeral marked beforeBlank signed behindBlank =>
    have starts := startsSign_append signed beforeBlank behind
    cases unique with
    | true =>
      subst marked
      exact ⟨digits, '!', before ++ sign :: behind, rfl, numeral, .inr (by decide)⟩
    | false =>
      obtain rfl : mark = [] := marked
      obtain ⟨c, rest, whole⟩ : ∃ c rest, before ++ sign :: behind = c :: rest :=
        List.exists_cons_of_ne_nil (by simp)
      refine ⟨digits, c, rest, by rw [← whole]; rfl, numeral, ?_⟩
      rcases starts c (by rw [whole]; rfl) with blank | sign
      · exact .inl blank
      · rcases sign with rfl | rfl <;> exact .inr (by decide)

/-- A count in front of something is the count of it, and nothing else. -/
theorem takeToken_counted {spelling more : List Char} {count : Nat} {unique : Bool}
    (isCount : IsCount spelling count unique) (goesOn : GoesOn more) :
    takeToken (spelling ++ more) = TokenRule.groupOrPool (some count) unique more := by
  have counted := counted_eq_of_isCount isCount goesOn
  obtain ⟨digits, c, rest, rfl, numeral, follows⟩ := isCount.exists_numeral
  have other : c.isDigit = false ∧ c ≠ ':' ∧ c ≠ 'x' ∧ c ≠ 'X' := by
    rcases follows with blank | sign
    · have ends : EndsWord [c] := by simpa [EndsWord] using blank
      refine ⟨ends.not_isDigit c rfl, ?_, ?_, ?_⟩ <;>
      · rintro rfl
        cases blank
    · simp only [List.mem_cons, List.not_mem_nil, or_false] at sign
      rcases sign with rfl | rfl | rfl <;> decide
  -- the rule for counts is the first one that does not decline
  have accepted : TokenRule.groupOrPool (some count) unique more ≠ none := by
    rw [Ne, groupOrPool_eq_none_iff, not_not]
    exact goesOn
  obtain ⟨result, made⟩ := Option.ne_none_iff_exists'.1 accepted
  rw [List.append_assoc, List.cons_append] at counted ⊢
  simp only [takeToken, tokenRules, List.findSome?_cons, close_of_numeral numeral,
    time_of_numeral numeral other.1 other.2.1, strikes_of_numeral numeral other.1 other.2.2,
    setting_of_numeral numeral, counted, made]

theorem IsCount.starred {digits : List Char} {n : Nat} (numeral : IsShortNumeral digits n) :
    IsCount (digits ++ ['*']) n false :=
  @IsCount.mk digits [] [] [] n false '*' numeral rfl (by simp) (.inr rfl) (by simp)

/-! ### Gaps -/

theorem skipGap_blank {c : Char} (blank : isBlank c = true) (text : List Char) :
    skipGap (c :: text) = skipGap text := by
  rw [skipGap.eq_def]
  split
  · cases ‹c :: text = []›
  next same =>
    obtain ⟨rfl, -⟩ := List.cons.inj same
    cases blank
  next same =>
    obtain ⟨rfl, -⟩ := List.cons.inj same
    cases blank
  next same =>
    obtain ⟨rfl, rfl⟩ := List.cons.inj same
    rw [if_pos blank]

theorem skipGap_lineComment (text : List Char) :
    skipGap ('/' :: '/' :: text) = skipGap (afterLineComment text) := by
  rw [skipGap.eq_def]
  rfl

theorem skipGap_blockComment (text : List Char) :
    skipGap ('/' :: '*' :: text) = skipGap (afterBlockComment text) := by
  rw [skipGap.eq_def]
  rfl

theorem skipGap_of_not_startsGap {text : List Char} (solid : ¬ StartsGap text) :
    skipGap text = text := by
  rw [skipGap.eq_def]
  split
  · rfl
  next rest => exact absurd (.inr (.inl ⟨rest, rfl⟩)) solid
  next rest => exact absurd (.inr (.inr ⟨rest, rfl⟩)) solid
  next c rest _ _ =>
    split
    next blank => exact absurd (.inl ⟨c, rfl, blank⟩) solid
    · rfl

theorem not_startsGap_skipGap (text : List Char) : ¬ StartsGap (skipGap text) := by
  fun_induction skipGap text with
  | case1 => simp [StartsGap]
  | case2 rest ih => exact ih
  | case3 rest ih => exact ih
  | case4 c rest _ _ _ ih => exact ih
  | case5 c rest notLine notBlock solid =>
    rintro (⟨d, first, blank⟩ | ⟨behind, same⟩ | ⟨behind, same⟩)
    · obtain rfl := Option.some.inj first
      exact solid blank
    · obtain ⟨rfl, rfl⟩ := List.cons.inj same
      exact notLine behind rfl rfl
    · obtain ⟨rfl, rfl⟩ := List.cons.inj same
      exact notBlock behind rfl rfl

theorem afterLineComment_append {body rest : List Char} (oneLine : '\n' ∉ body)
    (ended : rest = [] ∨ rest.head? = some '\n') : afterLineComment (body ++ rest) = rest := by
  refine IsRun.dropWhile_append ⟨?_, ?_⟩
  · intro c member
    have other : c ≠ '\n' := by
      rintro rfl
      exact oneLine member
    simpa using other
  · intro c first
    rcases ended with rfl | newline
    · cases first
    · obtain rfl := Option.some.inj (newline.symm.trans first)
      rfl

theorem afterBlockComment_append {body : List Char} (first : ¬ ['*', '/'] <:+: body ++ ['*'])
    (rest : List Char) : afterBlockComment (body ++ '*' :: '/' :: rest) = rest := by
  induction body with
  | nil => rfl
  | cons c body ih =>
    have later : ¬ ['*', '/'] <:+: body ++ ['*'] := fun inside =>
      first (inside.trans (List.suffix_cons c _).isInfix)
    rw [List.cons_append, afterBlockComment, ih later]
    -- the mark that closes a comment cannot start at `c`
    rintro tail rfl same
    refine first (List.IsPrefix.isInfix ?_)
    cases body with
    | nil => cases (List.cons.inj same).1
    | cons d body =>
      obtain ⟨rfl, -⟩ := List.cons.inj same
      exact ⟨body ++ ['*'], rfl⟩

theorem afterBlockComment_eq_nil {body : List Char} (never : ¬ ['*', '/'] <:+: body) :
    afterBlockComment body = [] := by
  rcases afterBlockComment_split body with ⟨inner, whole, -⟩ | ⟨ended, -⟩
  · refine absurd ?_ never
    rw [whole]
    exact ⟨inner, afterBlockComment body, by simp⟩
  · exact ended

/-- A gap in front of a text that does not go on with one is skipped whole and nothing more. -/
theorem IsGap.skipGap_append {gap rest : List Char} (isGap : IsGap gap rest)
    (solid : ¬ StartsGap rest) : skipGap (gap ++ rest) = rest := by
  -- part by part: the skipper goes on behind a blank or a comment as if the text started there
  induction isGap with
  | nil => exact skipGap_of_not_startsGap solid
  | blank blank _ ih => rw [List.cons_append, skipGap_blank blank, ih solid]
  | @lineComment body gap rest oneLine ended _ ih =>
    have comment : afterLineComment (body ++ gap ++ rest) = gap ++ rest := by
      rw [List.append_assoc]
      exact afterLineComment_append oneLine ended
    rw [List.cons_append, List.cons_append, skipGap_lineComment, comment, ih solid]
  | @blockComment body gap rest first _ ih =>
    have comment : afterBlockComment (body ++ '*' :: '/' :: gap ++ rest) = gap ++ rest := by
      rw [List.append_assoc, List.cons_append, List.cons_append]
      exact afterBlockComment_append first _
    rw [List.cons_append, List.cons_append, skipGap_blockComment, comment, ih solid]
  | @openComment body never =>
    rw [List.append_nil, skipGap_blockComment, afterBlockComment_eq_nil never]
    exact skipGap_of_not_startsGap solid

/-! ### Texts -/

theorem dropSuffix_append_left (front rest : List Char) : dropSuffix (front ++ rest) rest = front := by
  simp [dropSuffix]

theorem tokenized_scan (start : Nat) (text : List Char) :
    Tokenized start text (Lexeme.tokens start (Lexeme.scan text)) := by
  -- every token takes something off the text, so the induction is on what is left of it
  induction size : text.length using Nat.strongRecOn generalizing start text with
  | ind size ih =>
    subst size
    rcases Lexeme.scan_cases text with
      ⟨isGap, ended⟩ | ⟨gap, spelling, rest, kind, whole, isGap, behind, nonempty, taken, next⟩
    · rw [ended]
      exact .gap isGap
    · have solid := not_startsGap_skipGap text
      rw [behind] at solid
      have shorter : rest.length < text.length := by
        have some := List.length_pos_iff.2 nonempty
        rw [whole, List.length_append, List.length_append]
        omega
      rw [next, whole]
      exact .token isGap solid (takeToken_eq_some_iff.1 taken) (ih _ shorter _ rest rfl)

theorem Tokenized.eq_scan {start : Nat} {text : List Char} {tokens : List Token}
    (tokenized : Tokenized start text tokens) :
    tokens = Lexeme.tokens start (Lexeme.scan text) := by
  induction tokenized with
  | gap isGap =>
    have nothing : ¬ StartsGap [] := by simp [StartsGap]
    have skipped := isGap.skipGap_append nothing
    rw [List.append_nil] at skipped
    rw [Lexeme.scan_of_none (Lexeme.takeToken_skipGap_eq_none_iff.2 skipped)]
    rfl
  | @token start gap spelling rest kind tokens isGap solid first _ ih =>
    have skipped := isGap.skipGap_append solid
    rw [← List.append_assoc] at skipped
    have taken := takeToken_eq_some_iff.2 first
    rw [← skipped] at taken
    rw [Lexeme.scan_of_some taken, skipped, List.append_assoc, dropSuffix_append_left,
      dropSuffix_append_left, Lexeme.tokens, ← ih]

/-- The scanner recognises exactly its grammar. It takes a token off the front of a text when the
grammar writes that token there, and the tokens of a text are the only ones into which the grammar
cuts it. -/
theorem scanTokens_grammar :
    (∀ text kind rest, takeToken text = some (kind, rest) ↔ FirstOf tokenGrammar text kind rest) ∧
    ∀ (text : String) (tokens : List Token),
      scanTokens text = tokens ↔ Tokenized 0 text.toList tokens := by
  refine ⟨fun text kind rest => takeToken_eq_some_iff, ?_⟩
  intro text tokens
  constructor
  · rintro rfl
    exact tokenized_scan 0 text.toList
  · intro tokenized
    exact tokenized.eq_scan.symm

-- what misses a literal or a count by little is the body of a pool
example : (scanTokens "time:2:30 1234567890:00 3*)").map Token.kind =
    [.time 150, .pool ⟨"1234567890:00", none, false, false⟩, .pool ⟨"3*", none, false, false⟩,
      .groupClose] := by
  decide +kernel

end BombMission
