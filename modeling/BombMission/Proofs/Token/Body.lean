import BombMission.Proofs.Token.Literal

/-!
# Pool bodies by the grammar

The scanner reads a body character by character and knows only where it stands. `RunsFrom` says which
run of the grammar it is in the middle of at each position, so that what it takes in is such a run.
Conversely it stops no earlier than any run at the front of the text (`BodyRun.splitBody_append`):
together the body is the longest run, and its open quote is that run's.
-/

namespace BombMission

open Text

/-- The split with more characters at the front of the body. -/
def BodySplit.prepend (front : List Char) (split : BodySplit) : BodySplit :=
  { split with spelling := front ++ split.spelling }

theorem BodySplit.cons_eq_prepend (c : Char) (split : BodySplit) :
    split.cons c = split.prepend [c] := rfl

theorem BodySplit.prepend_prepend (front behind : List Char) (split : BodySplit) :
    (split.prepend behind).prepend front = split.prepend (front ++ behind) := by
  simp [prepend]

/-! ### What the scanner takes in is a run -/

/-- What a reader of bodies may still take in from where it stands. -/
def RunsFrom (position : BodyPosition) (run : List Char) (unclosed : Bool) : Prop :=
  match position with
  | .plain => BodyRun run unclosed
  | .separated => ∃ blanks own, run = blanks ++ own ∧ (∀ b ∈ blanks, isBlank b = true) ∧
      BodyRun own unclosed
  | .quoted mark => (mark ∉ run ∧ unclosed = true) ∨
      ∃ inner own, run = inner ++ mark :: own ∧ mark ∉ inner ∧ BodyRun own unclosed

/-- A character that is taken in outside quotes starts a plain, a quoted or a separated run. -/
theorem bodyRun_cons {c : Char} {run : List Char} {unclosed : Bool} (solid : isBlank c = false)
    (inside : c ≠ ')') (behind : RunsFrom (.after c) run unclosed) : BodyRun (c :: run) unclosed := by
  -- the position behind the character says which kind of run goes on there
  unfold BodyPosition.after at behind
  split at behind
  next quote =>
    rcases behind with ⟨absent, rfl⟩ | ⟨inner, own, rfl, absent, isRun⟩
    · exact .unclosed quote absent
    · exact .quoted quote absent isRun
  next plain =>
    split at behind
    next separator =>
      obtain ⟨blanks, own, rfl, isBlanks, isRun⟩ := behind
      exact .separator separator isBlanks isRun
    next single =>
      exact .plain (by simpa using plain) (by simpa using single) solid inside behind

theorem runsFrom_splitBody (position : BodyPosition) (text : List Char) :
    RunsFrom position (splitBody position text).spelling
      (splitBody position text).unclosedQuote := by
  fun_induction splitBody position text with
  | case1 mark => exact .inl ⟨by simp, rfl⟩
  | case2 position notQuoted =>
    cases position with
    | plain => exact .nil
    | separated => exact ⟨[], [], rfl, by simp, .nil⟩
    | quoted mark => exact absurd rfl (notQuoted mark)
  | case3 mark c text ih =>
    -- a quoted run goes on until its mark comes again
    by_cases same : c = mark
    · subst same
      rw [if_pos rfl] at ih ⊢
      exact .inr ⟨[], _, rfl, by simp, ih⟩
    · rw [if_neg same] at ih ⊢
      rcases ih with ⟨absent, unclosed⟩ | ⟨inner, own, whole, absent, isRun⟩
      · exact .inl ⟨by simp [BodySplit.cons, absent, Ne.symm same], unclosed⟩
      · refine .inr ⟨c :: inner, own, ?_, by simp [absent, Ne.symm same], isRun⟩
        simp [BodySplit.cons, whole]
  | case4 c text blank ih =>
    obtain ⟨blanks, own, whole, isBlanks, isRun⟩ := ih
    exact ⟨c :: blanks, own, by simp [BodySplit.cons, whole], by simpa [blank] using isBlanks, isRun⟩
  | case5 text => exact ⟨[], [], rfl, by simp, .nil⟩
  | case6 c text solid inside ih =>
    exact ⟨[], _, rfl, by simp, bodyRun_cons (by simpa using solid) inside ih⟩
  | case7 c text stops => exact .nil
  | case8 c text goesOn ih =>
    obtain ⟨solid, inside⟩ : isBlank c = false ∧ c ≠ ')' := by simpa using goesOn
    exact bodyRun_cons solid inside ih

/-! ### No run reaches further -/

theorem splitBody_quoted {mark : Char} {inner : List Char} (absent : mark ∉ inner)
    (text : List Char) :
    splitBody (.quoted mark) (inner ++ mark :: text) =
      (splitBody .plain text).prepend (inner ++ [mark]) := by
  induction inner with
  | nil =>
    rw [List.nil_append, splitBody, if_pos rfl]
    rfl
  | cons c inner ih =>
    obtain ⟨differs, later⟩ := not_or.1 (mt List.mem_cons.2 absent)
    rw [List.cons_append, splitBody, if_neg (Ne.symm differs), ih later,
      BodySplit.cons_eq_prepend, BodySplit.prepend_prepend]
    rfl

theorem splitBody_unclosed {mark : Char} {inner : List Char} (absent : mark ∉ inner) :
    splitBody (.quoted mark) inner = ⟨inner, [], true⟩ := by
  induction inner with
  | nil => rfl
  | cons c inner ih =>
    obtain ⟨differs, later⟩ := not_or.1 (mt List.mem_cons.2 absent)
    rw [splitBody, if_neg (Ne.symm differs), ih later]
    rfl

theorem splitBody_separated_blanks {blanks : List Char} (isBlanks : ∀ b ∈ blanks, isBlank b = true)
    (text : List Char) :
    splitBody .separated (blanks ++ text) = (splitBody .separated text).prepend blanks := by
  induction blanks with
  | nil => rfl
  | cons b blanks ih =>
    obtain ⟨blank, later⟩ := List.forall_mem_cons.1 isBlanks
    rw [List.cons_append, splitBody, if_pos blank, ih later, BodySplit.cons_eq_prepend,
      BodySplit.prepend_prepend]
    rfl

theorem splitBody_separated_of_solid {c : Char} (solid : isBlank c = false) (text : List Char) :
    splitBody .separated (c :: text) = splitBody .plain (c :: text) := by
  simp [splitBody, solid]

theorem isBlank_of_isQuoteMark {c : Char} (quote : isQuoteMark c = true) : isBlank c = false := by
  have marks : c = '\'' ∨ c = '"' := by simpa [isQuoteMark] using quote
  rcases marks with rfl | rfl <;> rfl

theorem isBlank_of_isSeparator {c : Char} (separator : isSeparator c = true) :
    isBlank c = false := by
  have signs : c = ',' ∨ c = '+' := by simpa [isSeparator] using separator
  rcases signs with rfl | rfl <;> rfl

theorem splitBody_plain_cons {c : Char} (solid : isBlank c = false) (inside : c ≠ ')')
    (text : List Char) :
    splitBody .plain (c :: text) = (splitBody (.after c) text).prepend [c] := by
  rw [splitBody, if_neg (by simp [solid, inside]), BodySplit.cons_eq_prepend]

theorem BodyRun.solid_head {run : List Char} {unclosed : Bool} (isRun : BodyRun run unclosed) :
    ∀ c, run.head? = some c → isBlank c = false := by
  intro c first
  cases isRun with
  | nil => cases first
  | plain _ _ solid _ _ =>
    obtain rfl := Option.some.inj first
    exact solid
  | quoted quote _ _ =>
    obtain rfl := Option.some.inj first
    exact isBlank_of_isQuoteMark quote
  | separator separates _ _ =>
    obtain rfl := Option.some.inj first
    exact isBlank_of_isSeparator separates
  | unclosed quote _ =>
    obtain rfl := Option.some.inj first
    exact isBlank_of_isQuoteMark quote

/-- What follows a run that is not cut off in a quote: either there is more of the body, or the
reader stops where the run does. -/
def BodySplit.StopsAt (split : BodySplit) (more : List Char) (unclosed : Bool) : Prop :=
  split.spelling = [] → split.rest = more ∧ split.unclosedQuote = unclosed

theorem stopsAt_splitBody {position : BodyPosition} (outside : ∀ mark, position ≠ .quoted mark)
    (more : List Char) : (splitBody position more).StopsAt more false := by
  intro nothing
  -- an open quote takes in the whole text, and here nothing was taken in
  have whole := splitBody_append position more
  rw [nothing, List.nil_append] at whole
  refine ⟨whole, ?_⟩
  cases more with
  | nil => cases position <;> simp_all [splitBody]
  | cons c more =>
    cases unclosed : (splitBody position (c :: more)).unclosedQuote with
    | false => rfl
    | true =>
      rw [rest_of_unclosedQuote unclosed] at whole
      cases whole

theorem splitBody_plainChar {c : Char} (notQuote : isQuoteMark c = false)
    (notSeparator : isSeparator c = false) (solid : isBlank c = false) (inside : c ≠ ')')
    (text : List Char) :
    splitBody .plain (c :: text) = (splitBody .plain text).prepend [c] := by
  have after : BodyPosition.after c = .plain := by
    simp [BodyPosition.after, notQuote, notSeparator]
  rw [splitBody_plain_cons solid inside, after]

theorem splitBody_quoteMark {mark : Char} (quote : isQuoteMark mark = true) (text : List Char) :
    splitBody .plain (mark :: text) = (splitBody (.quoted mark) text).prepend [mark] := by
  have after : BodyPosition.after mark = .quoted mark := if_pos quote
  have inside : mark ≠ ')' := by
    rintro rfl
    cases quote
  rw [splitBody_plain_cons (isBlank_of_isQuoteMark quote) inside, after]

theorem splitBody_quotedRun {mark : Char} {inner : List Char} (quote : isQuoteMark mark = true)
    (absent : mark ∉ inner) (text : List Char) :
    splitBody .plain (mark :: (inner ++ mark :: text)) =
      (splitBody .plain text).prepend (mark :: (inner ++ [mark])) := by
  rw [splitBody_quoteMark quote, splitBody_quoted absent, BodySplit.prepend_prepend]
  rfl

theorem splitBody_separator {c : Char} {blanks : List Char} (separates : isSeparator c = true)
    (isBlanks : ∀ b ∈ blanks, isBlank b = true) (text : List Char) :
    splitBody .plain (c :: (blanks ++ text)) =
      (splitBody .separated text).prepend (c :: blanks) := by
  have after : BodyPosition.after c = .separated := by
    have signs : c = ',' ∨ c = '+' := by simpa [isSeparator] using separates
    rcases signs with rfl | rfl <;> rfl
  have inside : c ≠ ')' := by
    rintro rfl
    cases separates
  rw [splitBody_plain_cons (isBlank_of_isSeparator separates) inside, after,
    splitBody_separated_blanks isBlanks, BodySplit.prepend_prepend]
  rfl

/-- The reader takes in any run at the front of the text, and stops right behind it only if the run
leaves a quote open just as the body does. -/
theorem BodyRun.splitBody_append {run : List Char} {unclosed : Bool} (isRun : BodyRun run unclosed)
    {more : List Char} (atEnd : unclosed = true → more = []) :
    ∃ split : BodySplit, splitBody .plain (run ++ more) = split.prepend run ∧
      split.StopsAt more unclosed := by
  induction isRun with
  | nil => exact ⟨splitBody .plain more, rfl, stopsAt_splitBody (by simp) more⟩
  | @plain c run unclosed notQuote notSeparator solid inside _ ih =>
    obtain ⟨split, whole, stops⟩ := ih atEnd
    refine ⟨split, ?_, stops⟩
    rw [List.cons_append, splitBody_plainChar notQuote notSeparator solid inside, whole,
      BodySplit.prepend_prepend]
    rfl
  | @quoted mark inner run unclosed quote absent _ ih =>
    obtain ⟨split, whole, stops⟩ := ih atEnd
    refine ⟨split, ?_, stops⟩
    rw [List.cons_append, List.append_assoc, List.cons_append, splitBody_quotedRun quote absent,
      whole, BodySplit.prepend_prepend]
    simp
  | @separator c blanks run unclosed separates isBlanks isRun ih =>
    rw [List.cons_append, List.append_assoc, splitBody_separator separates isBlanks]
    cases run with
    -- nothing but the separator: more blanks may follow it
    | nil =>
      cases isRun
      exact ⟨splitBody .separated more, by simp, stopsAt_splitBody (by simp) more⟩
    | cons d run =>
      obtain ⟨split, whole, stops⟩ := ih atEnd
      have solid := isRun.solid_head d rfl
      refine ⟨split, ?_, stops⟩
      rw [List.cons_append, splitBody_separated_of_solid solid, ← List.cons_append, whole,
        BodySplit.prepend_prepend]
      rfl
  | @unclosed mark inner quote absent =>
    obtain rfl := atEnd rfl
    refine ⟨⟨[], [], true⟩, ?_, fun _ => ⟨rfl, rfl⟩⟩
    rw [List.append_nil, splitBody_quoteMark quote, splitBody_unclosed absent]
    simp [BodySplit.prepend]

theorem getLast?_of_suffix {run whole : List Char} {c : Char} (isSuffix : run <:+ whole)
    (last : run.getLast? = some c) : whole.getLast? = some c := by
  obtain ⟨front, rfl⟩ := isSuffix
  rw [List.getLast?_append, last, Option.some_or]

/-- A body goes on behind a run that ends in neither a separator nor a blank nor an open quote. -/
theorem BodyRun.splitBody_closed {run : List Char} (isRun : BodyRun run false)
    (ended : ∀ c, run.getLast? = some c → isSeparator c = false ∧ isBlank c = false)
    (more : List Char) :
    splitBody .plain (run ++ more) = (splitBody .plain more).prepend run := by
  generalize closed : false = unclosed at isRun
  induction isRun with
  | nil => rfl
  | @plain c run unclosed notQuote notSeparator solid inside _ ih =>
    have later := ih (fun d last => ended d (getLast?_of_suffix ⟨[c], rfl⟩ last)) closed
    rw [List.cons_append, splitBody_plainChar notQuote notSeparator solid inside, later,
      BodySplit.prepend_prepend]
    rfl
  | @quoted mark inner run unclosed quote absent _ ih =>
    have later := ih (fun d last =>
      ended d (getLast?_of_suffix ⟨mark :: (inner ++ [mark]), by simp⟩ last)) closed
    rw [List.cons_append, List.append_assoc, List.cons_append, splitBody_quotedRun quote absent,
      later, BodySplit.prepend_prepend]
    simp
  | @separator c blanks run unclosed separates isBlanks isRun ih =>
    cases run with
    | nil =>
      -- the run would end in the separator or in a blank behind it
      obtain ⟨d, last⟩ : ∃ d, (c :: (blanks ++ [])).getLast? = some d :=
        ⟨_, List.getLast?_eq_some_getLast (by simp)⟩
      have member := List.mem_of_getLast? last
      rw [List.append_nil] at member
      rcases List.mem_cons.1 member with rfl | inBlanks
      · cases separates.symm.trans (ended d last).1
      · cases (isBlanks d inBlanks).symm.trans (ended d last).2
    | cons d run =>
      have later := ih (fun e last =>
        ended e (getLast?_of_suffix ⟨c :: blanks, by simp⟩ last)) closed
      have solid := isRun.solid_head d rfl
      rw [List.cons_append, List.append_assoc, splitBody_separator separates isBlanks,
        List.cons_append, splitBody_separated_of_solid solid, ← List.cons_append, later,
        BodySplit.prepend_prepend]
      rfl
  | unclosed => cases closed

/-- The body that the scanner splits off is the longest run of the grammar. -/
theorem splitBody_plain_iff {body rest : List Char} {unclosed : Bool} :
    splitBody .plain (body ++ rest) = ⟨body, rest, unclosed⟩ ∧ body ≠ [] ↔
      IsPoolBody body rest unclosed := by
  constructor
  · rintro ⟨split, nonempty⟩
    have isRun := runsFrom_splitBody .plain (body ++ rest)
    have atEnd := @rest_of_unclosedQuote .plain (body ++ rest)
    rw [split] at isRun atEnd
    refine ⟨⟨isRun, atEnd⟩, nonempty, ?_⟩
    -- any other run at the front is taken in whole, so it is no longer than the body
    intro run more flag same other
    obtain ⟨behind, whole, -⟩ := other.run.splitBody_append other.atEnd
    rw [same, split] at whole
    have longer := congrArg (fun split => split.spelling.length) whole
    simp only [BodySplit.prepend, List.length_append] at longer
    omega
  · intro isBody
    obtain ⟨behind, whole, stops⟩ := isBody.run.splitBody_append isBody.atEnd
    refine ⟨?_, isBody.nonempty⟩
    -- what the scanner takes in is a run too, and none is longer than the body
    have taken := runsFrom_splitBody .plain (body ++ rest)
    have atEnd := @rest_of_unclosedQuote .plain (body ++ rest)
    have covers := splitBody_append .plain (body ++ rest)
    have short := isBody.longest _ _ _ covers ⟨taken, atEnd⟩
    rw [whole] at short ⊢
    simp only [BodySplit.prepend, List.length_append] at short
    have nothing : behind.spelling = [] := List.length_eq_zero_iff.1 (by omega)
    obtain ⟨sameRest, sameFlag⟩ := stops nothing
    simp [BodySplit.prepend, nothing, sameRest, sameFlag]

/-! ### What a body says -/

theorem isTrimmed_trimBlanks (text : List Char) : IsTrimmed text (trimBlanks text) := by
  -- the blanks in front go first, then those behind, which stand in front of the reverse
  have front := IsRun.takeWhile isBlank text
  have back := IsRun.takeWhile isBlank (skipBlanks text).reverse
  have frontSplit := @List.takeWhile_append_dropWhile Char isBlank text
  have backSplit := @List.takeWhile_append_dropWhile Char isBlank (skipBlanks text).reverse
  have kept : skipBlanks text = trimBlanks text ++
      ((skipBlanks text).reverse.takeWhile isBlank).reverse := by
    have reversed := congrArg List.reverse backSplit
    rw [List.reverse_append, List.reverse_reverse] at reversed
    exact reversed.symm
  refine ⟨⟨text.takeWhile isBlank, ((skipBlanks text).reverse.takeWhile isBlank).reverse, ?_,
    front.inside, ?_⟩, ?_, ?_⟩
  · rw [List.append_assoc, ← kept]
    exact frontSplit.symm
  · intro c member
    exact back.inside c (List.mem_reverse.1 member)
  · intro c first
    refine front.stops c ?_
    change (skipBlanks text).head? = some c
    rw [kept, List.head?_append, first]
    rfl
  · intro c last
    refine back.stops c ?_
    rwa [trimBlanks, List.getLast?_reverse] at last

theorem trimBlanks_eq_nil {text : List Char} (blanks : ∀ c ∈ text, isBlank c = true) :
    trimBlanks text = [] := by
  have isRun : IsRun isBlank text [] := ⟨blanks, by simp⟩
  have skipped : skipBlanks text = [] := by simpa [skipBlanks] using isRun.dropWhile_append
  rw [trimBlanks, skipped]
  rfl

theorem IsTrimmed.trimBlanks_eq {text inner : List Char} (trimmed : IsTrimmed text inner) :
    trimBlanks text = inner := by
  obtain ⟨⟨front, back, rfl, frontBlank, backBlank⟩, first, last⟩ := trimmed
  cases inner with
  | nil =>
    refine trimBlanks_eq_nil fun c member => ?_
    rw [List.append_nil] at member
    exact (List.mem_append.1 member).elim (frontBlank c) (backBlank c)
  | cons c inner =>
    -- the inner text has a first and a last character, and both skips stop there
    have fromFirst : skipBlanks (front ++ (c :: inner) ++ back) = (c :: inner) ++ back := by
      rw [List.append_assoc]
      exact IsRun.dropWhile_append ⟨frontBlank, by simpa using first⟩
    have toLast : skipBlanks (((c :: inner) ++ back).reverse) = (c :: inner).reverse := by
      rw [List.reverse_append]
      refine IsRun.dropWhile_append ⟨?_, ?_⟩
      · intro d member
        exact backBlank d (List.mem_reverse.1 member)
      · intro d isLast
        rw [List.head?_reverse] at isLast
        exact last d isLast
    rw [trimBlanks, fromFirst, toLast, List.reverse_reverse]

theorem trimBlanks_eq_iff {text inner : List Char} :
    trimBlanks text = inner ↔ IsTrimmed text inner :=
  ⟨fun same => same ▸ isTrimmed_trimBlanks text, IsTrimmed.trimBlanks_eq⟩

theorem endsUnique_iff {body rest : List Char} {unclosed : Bool} :
    (⟨body, rest, unclosed⟩ : BodySplit).endsUnique = true ↔
      unclosed = false ∧ ∃ own, own ≠ [] ∧ body = own ++ ['!'] := by
  simp only [BodySplit.endsUnique, Bool.and_eq_true, Bool.not_eq_true', decide_eq_true_eq,
    and_assoc, List.getLast?_eq_some_iff]
  refine and_congr_right fun _ => ?_
  constructor
  · rintro ⟨long, own, rfl⟩
    refine ⟨own, ?_, rfl⟩
    rintro rfl
    simp at long
  · rintro ⟨own, nonempty, rfl⟩
    refine ⟨?_, own, rfl⟩
    have some := List.length_pos_iff.2 nonempty
    simp only [List.length_append, List.length_singleton]
    omega

theorem isPoolText_iff {count : Option Nat} {unique unclosed : Bool} {body rest : List Char}
    {pool : PoolText} :
    IsPoolText count unique body unclosed pool ↔
      (⟨body, rest, unclosed⟩ : BodySplit).pool count unique = pool := by
  -- the scanner and the grammar ask the same of a body: whether it ends in the mark
  constructor
  · intro means
    cases means with
    | @marked own ids nonempty trimmed =>
      have ends : (⟨own ++ ['!'], rest, false⟩ : BodySplit).endsUnique = true :=
        endsUnique_iff.2 ⟨rfl, own, nonempty, rfl⟩
      simp [BodySplit.pool, ends, bareBody, trimBlanks_eq_iff.2 trimmed]
    | @unmarked _ ids _ without trimmed =>
      have ends : (⟨body, rest, unclosed⟩ : BodySplit).endsUnique = false := by
        rw [Bool.eq_false_iff]
        intro marked
        obtain ⟨closed, own, nonempty, same⟩ := endsUnique_iff.1 marked
        cases closed.symm.trans (without own nonempty same)
      simp [BodySplit.pool, ends, bareBody, trimBlanks_eq_iff.2 trimmed]
  · rintro rfl
    cases ends : (⟨body, rest, unclosed⟩ : BodySplit).endsUnique with
    | true =>
      obtain ⟨rfl, own, nonempty, rfl⟩ := endsUnique_iff.1 ends
      have means : IsPoolText count unique (own ++ ['!']) false _ :=
        .marked nonempty (trimBlanks_eq_iff.1 rfl)
      simpa [BodySplit.pool, ends, bareBody] using means
    | false =>
      have without : ∀ own, own ≠ [] → body = own ++ ['!'] → unclosed = true := by
        intro own nonempty same
        cases closed : unclosed with
        | true => rfl
        | false =>
          have marked := (@endsUnique_iff body rest unclosed).2 ⟨closed, own, nonempty, same⟩
          cases ends.symm.trans marked
      have means : IsPoolText count unique body unclosed _ :=
        .unmarked without (trimBlanks_eq_iff.1 rfl)
      simpa [BodySplit.pool, ends, bareBody] using means

end BombMission
