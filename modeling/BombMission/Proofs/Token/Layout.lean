import BombMission.Token.Scan

/-!
# The layout of a scanned text

A mission text is gap, token, gap, token and so on up to a last gap, with nothing in between. `IsGap`
says what a gap is without reference to the scanner, `Layout` how the spans of the tokens lie in the
text. The main statement is `scanTokens_layout`: the tokens of a text are laid out in it, so their
spans are increasing, lie on the boundaries of characters and hold the spelling of their token, and
whatever is outside them is blanks and comments.
-/

namespace BombMission

open Text

/-- `gap` is made of blanks and comments when `rest` is the text behind it. -/
inductive IsGap : (gap rest : List Char) → Prop where
  | nil {rest : List Char} : IsGap [] rest
  | blank {c : Char} {gap rest : List Char} :
      isBlank c = true → IsGap gap rest → IsGap (c :: gap) rest
  /-- A comment up to the end of its line or of the text. -/
  | lineComment {body gap rest : List Char} :
      '\n' ∉ body → gap ++ rest = [] ∨ (gap ++ rest).head? = some '\n' → IsGap gap rest →
      IsGap ('/' :: '/' :: (body ++ gap)) rest
  /-- A comment up to the first mark that closes it. -/
  | blockComment {body gap rest : List Char} :
      ¬ ['*', '/'] <:+: body ++ ['*'] → IsGap gap rest →
      IsGap ('/' :: '*' :: (body ++ '*' :: '/' :: gap)) rest
  /-- A comment that is never closed. -/
  | openComment {body : List Char} :
      ¬ ['*', '/'] <:+: body → IsGap ('/' :: '*' :: body) []

/-- Whether a token stands for a pool with a quote that is never closed. -/
def TokenKind.unclosedQuote : TokenKind → Bool
  | pool text => text.unclosedQuote
  | _ => false

/-- Some tokens and the gaps around them make up a text that starts at a byte of the whole. Behind a
quote that is never closed there is nothing. -/
inductive Layout : (start : Nat) → (text : List Char) → List Token → Prop where
  | gap {start : Nat} {text : List Char} : IsGap text [] → Layout start text []
  | token {start : Nat} {gap spelling rest : List Char} {token : Token} {tokens : List Token} :
      IsGap gap (spelling ++ rest) → spelling ≠ [] →
      token.start = start + byteSize gap → token.stop = token.start + byteSize spelling →
      token.spelling = String.ofList spelling →
      (token.kind.unclosedQuote = true → rest = []) → Layout token.stop rest tokens →
      Layout start (gap ++ spelling ++ rest) (token :: tokens)

/-! ### Gaps -/

theorem afterLineComment_split (text : List Char) :
    ∃ body, text = body ++ afterLineComment text ∧ '\n' ∉ body ∧
      (afterLineComment text = [] ∨ (afterLineComment text).head? = some '\n') := by
  refine ⟨text.takeWhile (· ≠ '\n'), List.takeWhile_append_dropWhile.symm, ?_, ?_⟩
  · intro member
    have inside := List.all_eq_true.1 (List.all_takeWhile (p := (· ≠ '\n')) (l := text)) _ member
    simp at inside
  · cases left : afterLineComment text with
    | nil => exact .inl rfl
    | cons c rest =>
      have stopped := List.head?_dropWhile_not (· ≠ '\n') text
      unfold afterLineComment at left
      rw [left] at stopped
      exact .inr (by simpa using stopped)

/-- What a block comment takes in has no closing mark but at its end. -/
theorem afterBlockComment_split (text : List Char) :
    (∃ body, text = body ++ '*' :: '/' :: afterBlockComment text ∧
      ¬ ['*', '/'] <:+: body ++ ['*']) ∨
    (afterBlockComment text = [] ∧ ¬ ['*', '/'] <:+: text) := by
  fun_induction afterBlockComment text with
  | case1 => exact .inr ⟨rfl, by simp⟩
  | case2 rest => exact .inl ⟨[], rfl, by decide⟩
  | case3 c rest notClosed ih =>
    -- a mark that starts at `c` would have been taken by the case before
    have notHere : ∀ tail : List Char, ['*', '/'] <+: c :: tail → tail <+: rest → False := by
      rintro tail ⟨after, same⟩ ⟨behind, rfl⟩
      obtain ⟨rfl, rfl⟩ := List.cons.inj same
      exact notClosed (after ++ behind) rfl rfl
    rcases ih with ⟨body, whole, first⟩ | ⟨ended, never⟩
    · refine .inl ⟨c :: body, by rw [List.cons_append, ← whole], ?_⟩
      rw [List.cons_append, List.infix_cons_iff]
      rintro (here | later)
      · exact notHere _ here ⟨'/' :: afterBlockComment rest, by simpa using whole.symm⟩
      · exact first later
    · refine .inr ⟨ended, ?_⟩
      rw [List.infix_cons_iff]
      rintro (here | later)
      · exact notHere _ here (List.prefix_refl _)
      · exact never later

theorem skipGap_split (text : List Char) :
    ∃ gap, text = gap ++ skipGap text ∧ IsGap gap (skipGap text) := by
  fun_induction skipGap text with
  | case1 => exact ⟨[], rfl, .nil⟩
  | case2 rest ih =>
    obtain ⟨body, whole, oneLine, ended⟩ := afterLineComment_split rest
    obtain ⟨gap, behind, isGap⟩ := ih
    rw [behind] at whole ended
    exact ⟨'/' :: '/' :: (body ++ gap), by simpa using whole, .lineComment oneLine ended isGap⟩
  | case3 rest ih =>
    obtain ⟨gap, behind, isGap⟩ := ih
    rcases afterBlockComment_split rest with ⟨body, whole, first⟩ | ⟨ended, never⟩
    · rw [behind] at whole
      exact ⟨'/' :: '*' :: (body ++ '*' :: '/' :: gap), by simpa using whole,
        .blockComment first isGap⟩
    · have empty : skipGap (afterBlockComment rest) = [] := by
        rw [ended]
        exact List.suffix_nil.1 (skipGap_suffix [])
      rw [empty]
      exact ⟨'/' :: '*' :: rest, by simp, .openComment never⟩
  | case4 c rest _ _ isBlank ih =>
    obtain ⟨gap, behind, isGap⟩ := ih
    exact ⟨c :: gap, by rw [List.cons_append, ← behind], .blank isBlank isGap⟩
  | case5 c rest => exact ⟨[], rfl, .nil⟩

/-! ### Tokens -/

namespace TokenRule

/-- A rule leaves a quote open only at the end of the text. -/
def OpensQuoteLast (rule : TokenRule) : Prop :=
  ∀ text kind rest, rule text = some (kind, rest) → kind.unclosedQuote = true → rest = []

theorem close_opensQuoteLast : OpensQuoteLast close := by
  intro text kind rest accepted unclosed
  unfold close at accepted
  split at accepted
  · obtain ⟨rfl, -⟩ := by simpa using accepted
    cases unclosed
  · cases accepted

theorem time_opensQuoteLast : OpensQuoteLast time := by
  intro text kind rest accepted unclosed
  unfold time at accepted
  split at accepted
  · split at accepted
    · obtain ⟨rfl, -⟩ := by simpa using accepted
      cases unclosed
    · cases accepted
  · cases accepted

theorem strikes_opensQuoteLast : OpensQuoteLast strikes := by
  intro text kind rest accepted unclosed
  unfold strikes at accepted
  split at accepted
  · split at accepted
    · obtain ⟨rfl, -⟩ := by simpa using accepted
      cases unclosed
    · cases accepted
  · cases accepted

theorem setting_opensQuoteLast : OpensQuoteLast setting := by
  intro text kind rest accepted unclosed
  obtain ⟨name, -, named⟩ := List.exists_of_findSome?_eq_some accepted
  obtain ⟨after, -, made⟩ := Option.map_eq_some_iff.1 named
  obtain ⟨rfl, -⟩ := Prod.mk.inj made
  cases unclosed

theorem groupOrPool_opensQuoteLast (count : Option Nat) (unique : Bool) :
    OpensQuoteLast (groupOrPool count unique) := by
  intro text kind rest accepted unclosed
  unfold groupOrPool at accepted
  split at accepted
  · obtain ⟨rfl, -⟩ := by simpa using accepted
    cases unclosed
  · simp only [pool, Option.ite_none_left_eq_some, Option.some.injEq, Prod.mk.injEq] at accepted
    obtain ⟨-, rfl, rfl⟩ := accepted
    exact rest_of_unclosedQuote unclosed

theorem counted_opensQuoteLast : OpensQuoteLast counted := by
  intro text kind rest accepted unclosed
  unfold counted at accepted
  split at accepted
  · cases accepted
  · exact groupOrPool_opensQuoteLast _ _ _ _ _ accepted unclosed

end TokenRule

open TokenRule in
theorem takeToken_opensQuoteLast : takeToken.OpensQuoteLast := by
  intro text kind rest accepted
  obtain ⟨rule, member, found⟩ := List.exists_of_findSome?_eq_some accepted
  have each : ∀ rule ∈ tokenRules, OpensQuoteLast rule := by
    simp [tokenRules, close_opensQuoteLast, time_opensQuoteLast, strikes_opensQuoteLast,
      setting_opensQuoteLast, counted_opensQuoteLast, groupOrPool_opensQuoteLast]
  exact each rule member text kind rest found

/-- A text is a gap, or a gap, the token that is taken behind it and the text behind that token. -/
theorem Lexeme.scan_cases (text : List Char) :
    (IsGap text [] ∧ scan text = []) ∨ ∃ gap spelling rest kind,
      text = gap ++ spelling ++ rest ∧ IsGap gap (spelling ++ rest) ∧
        skipGap text = spelling ++ rest ∧ spelling ≠ [] ∧
        takeToken (spelling ++ rest) = some (kind, rest) ∧
        scan text = { gap, spelling, kind } :: scan rest := by
  obtain ⟨gap, whole, isGap⟩ := skipGap_split text
  cases accepted : takeToken (skipGap text) with
  | none =>
    have ended := takeToken_skipGap_eq_none_iff.1 accepted
    rw [ended, List.append_nil] at whole
    rw [ended, ← whole] at isGap
    exact .inl ⟨isGap, scan_of_none accepted⟩
  | some taken =>
    obtain ⟨kind, rest⟩ := taken
    -- the spelling is what the rule took in, and it took in something
    obtain ⟨suffix, shorter⟩ := takeToken_shortens _ _ _ accepted
    have spelled := dropSuffix_append suffix
    have spelledGap : dropSuffix text (skipGap text) = gap := by
      have both := dropSuffix_append (skipGap_suffix text)
      exact List.append_cancel_right (both.trans whole)
    have next := scan_of_some accepted
    rw [spelledGap] at next
    generalize dropSuffix (skipGap text) rest = spelling at spelled next
    have nonempty : spelling ≠ [] := by
      rintro rfl
      rw [List.nil_append] at spelled
      rw [spelled] at shorter
      exact Nat.lt_irrefl _ shorter
    rw [← spelled] at whole isGap accepted
    refine .inr ⟨gap, spelling, rest, kind, ?_, isGap, spelled.symm, nonempty, accepted, next⟩
    rw [List.append_assoc]
    exact whole

theorem layout_tokens (start : Nat) (text : List Char) :
    Layout start text (Lexeme.tokens start (Lexeme.scan text)) := by
  induction size : text.length using Nat.strongRecOn generalizing start text with
  | ind size ih =>
    subst size
    rcases Lexeme.scan_cases text with
      ⟨isGap, ended⟩ | ⟨gap, spelling, rest, kind, whole, isGap, -, nonempty, taken, next⟩
    · rw [ended]
      exact .gap isGap
    · have shorter : rest.length < text.length := by
        have some := List.length_pos_iff.2 nonempty
        rw [whole, List.length_append, List.length_append]
        omega
      have behind := ih rest.length shorter (start + byteSize gap + byteSize spelling) rest rfl
      rw [next, whole]
      exact .token isGap nonempty rfl rfl rfl (takeToken_opensQuoteLast _ _ _ taken) behind

/-! ### Spans -/

namespace Layout

variable {start : Nat} {text : List Char} {tokens : List Token}

theorem exists_split (layout : Layout start text tokens) {token : Token}
    (member : token ∈ tokens) :
    ∃ before spelling after, text = before ++ spelling ++ after ∧ spelling ≠ [] ∧
      token.spelling = String.ofList spelling ∧ token.start = start + byteSize before ∧
      token.stop = token.start + byteSize spelling := by
  induction layout with
  | gap => cases member
  | @token start gap spelling rest first tokens _ nonempty starts stops spelled _ _ ih =>
    rcases List.mem_cons.1 member with rfl | behind
    · exact ⟨gap, spelling, rest, rfl, nonempty, spelled, starts, stops⟩
    · obtain ⟨before, own, after, rfl, ownNonempty, ownSpelled, ownStarts, ownStops⟩ := ih behind
      refine ⟨gap ++ spelling ++ before, own, after, by simp, ownNonempty, ownSpelled, ?_, ownStops⟩
      rw [ownStarts, stops, starts]
      simp only [byteSize_append]
      omega

theorem start_le (layout : Layout start text tokens) {token : Token} (member : token ∈ tokens) :
    start ≤ token.start := by
  obtain ⟨before, -, -, -, -, -, starts, -⟩ := layout.exists_split member
  omega

theorem pairwise_stop_le_start (layout : Layout start text tokens) :
    tokens.Pairwise fun first second => first.stop ≤ second.start := by
  induction layout with
  | gap => exact .nil
  | token _ _ _ _ _ _ behind ih =>
    exact List.pairwise_cons.2 ⟨fun second member => behind.start_le member, ih⟩

theorem eq_nil_of_text_eq_nil (layout : Layout start [] tokens) : tokens = [] := by
  generalize empty : ([] : List Char) = text at layout
  cases layout with
  | gap => rfl
  | token _ nonempty => simp_all

/-- A pool with a quote that is never closed is the last token and ends with the text. -/
theorem last_of_unclosedQuote (layout : Layout start text tokens) {before after : List Token}
    {token : Token} (whole : tokens = before ++ token :: after)
    (unclosed : token.kind.unclosedQuote = true) :
    after = [] ∧ token.stop = start + byteSize text := by
  induction layout generalizing before with
  | gap => simp at whole
  | @token start gap spelling rest first tokens _ _ starts stops _ last behind ih =>
    cases before with
    | nil =>
      obtain ⟨rfl, rfl⟩ := List.cons.inj whole
      obtain rfl := last unclosed
      refine ⟨behind.eq_nil_of_text_eq_nil, ?_⟩
      rw [stops, starts]
      simp only [byteSize_append, byteSize_nil]
      omega
    | cons _ before =>
      obtain ⟨ended, atEnd⟩ := ih (List.cons.inj whole).2
      refine ⟨ended, ?_⟩
      rw [atEnd, stops, starts]
      simp only [byteSize_append]
      omega

theorem countP_unclosedQuote_le_one (layout : Layout start text tokens) :
    tokens.countP (fun token => token.kind.unclosedQuote) ≤ 1 := by
  induction layout with
  | gap => simp
  | token _ _ _ _ _ last behind ih =>
    rw [List.countP_cons]
    split
    next unclosed =>
      obtain rfl := last unclosed
      simp [behind.eq_nil_of_text_eq_nil]
    · exact ih

end Layout

/-- A part of a text starts and ends on boundaries of characters, and the bytes between them are its
own. -/
theorem extract_of_split {text : String} {before part after : List Char}
    (whole : text.toList = before ++ part ++ after) :
    (String.Pos.Raw.mk (byteSize before)).IsValid text ∧
      (String.Pos.Raw.mk (byteSize before + byteSize part)).IsValid text ∧
      text.toByteArray.extract (byteSize before) (byteSize before + byteSize part) =
        (String.ofList part).toByteArray := by
  have parts : text = String.ofList before ++ String.ofList part ++ String.ofList after := by
    rw [← String.ofList_append, ← String.ofList_append, ← whole, String.ofList_toList]
  refine ⟨?_, ?_, ?_⟩
  · rw [String.Pos.Raw.isValid_iff_exists_append]
    refine ⟨String.ofList before, String.ofList part ++ String.ofList after,
      by rw [parts, String.append_assoc], ?_⟩
    rw [← utf8ByteSize_ofList]
    rfl
  · rw [String.Pos.Raw.isValid_iff_exists_append]
    refine ⟨_, _, parts, ?_⟩
    rw [← utf8ByteSize_ofList, ← utf8ByteSize_ofList, ← String.utf8ByteSize_append]
    rfl
  · rw [parts, String.append_assoc, String.toByteArray_append, String.toByteArray_append,
      ← utf8ByteSize_ofList, ← utf8ByteSize_ofList]
    have front := @ByteArray.extract_append_size_add (String.ofList before).toByteArray
      ((String.ofList part).toByteArray ++ (String.ofList after).toByteArray) 0
      (String.ofList part).utf8ByteSize
    rw [Nat.add_zero] at front
    exact front.trans (ByteArray.extract_append_eq_left rfl)

/-- Scanning takes in the whole text: its tokens are laid out in it with nothing but gaps between
them, their spans are increasing and hold their spellings, at most the last one leaves a quote open,
and the rules decline only once the text is over. -/
theorem scanTokens_layout (text : String) :
    Layout 0 text.toList (scanTokens text) ∧
    (∀ token ∈ scanTokens text, token.start < token.stop ∧ token.stop ≤ text.utf8ByteSize ∧
      (String.Pos.Raw.mk token.start).IsValid text ∧
      (String.Pos.Raw.mk token.stop).IsValid text ∧
      text.toByteArray.extract token.start token.stop = token.spelling.toByteArray) ∧
    (scanTokens text).Pairwise (fun first second => first.stop ≤ second.start) ∧
    (scanTokens text).countP (fun token => token.kind.unclosedQuote) ≤ 1 ∧
    (∀ before token after, scanTokens text = before ++ token :: after →
      token.kind.unclosedQuote = true → after = [] ∧ token.stop = text.utf8ByteSize) ∧
    (∀ rest, takeToken (skipGap rest) = none → skipGap rest = []) := by
  have layout : Layout 0 text.toList (scanTokens text) := layout_tokens 0 text.toList
  have size : text.utf8ByteSize = byteSize text.toList := by
    rw [← utf8ByteSize_ofList, String.ofList_toList]
  refine ⟨layout, ?_, layout.pairwise_stop_le_start, layout.countP_unclosedQuote_le_one, ?_,
    fun rest => Lexeme.takeToken_skipGap_eq_none_iff.1⟩
  · intro token member
    obtain ⟨before, spelling, after, whole, nonempty, spelled, starts, stops⟩ :=
      layout.exists_split member
    have taken := byteSize_pos nonempty
    obtain ⟨startValid, stopValid, extracted⟩ := extract_of_split whole
    rw [Nat.zero_add] at starts
    rw [spelled, stops, starts]
    refine ⟨by omega, ?_, startValid, stopValid, extracted⟩
    rw [size, whole]
    simp only [byteSize_append]
    omega
  · intro before token after whole unclosed
    rw [size, ← Nat.zero_add (byteSize text.toList)]
    exact layout.last_of_unclosedQuote whole unclosed

end BombMission
