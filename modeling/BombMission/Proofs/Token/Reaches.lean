import BombMission.Proofs.Token.Lookahead

/-!
# Cutting a text in two

The scanner walks a text from left to right, and between two tokens it keeps nothing but its place.
`Reaches` says that it gets to such a place behind some front of a text and which tokens it has found
there. From then on it reads the rest of the text as if it were all there is.

## Main results

* `scanTokens_of_reaches`: the tokens of a text are those of the front and those of the rest, moved.
* `Reaches.keeps`: the tokens of the front do not depend on the rest, as long as it joins the front.
* `Reaches.exists_split`: every token of a text starts at a place that the scanner reaches.
-/

namespace BombMission

open Text

/-- The scanner finds some tokens in the front of a text, which starts at a byte of the whole, and then
stands between tokens in front of `rest`. -/
inductive Reaches (rest : List Char) : (start : Nat) → (front : List Char) → List Token → Prop where
  | gap {start : Nat} {gap : List Char} : IsGap gap rest → Reaches rest start gap []
  | token {start : Nat} {gap spelling front : List Char} {kind : TokenKind} {tokens : List Token} :
      IsGap gap (spelling ++ (front ++ rest)) → ¬ StartsGap (spelling ++ (front ++ rest)) →
      FirstOf tokenGrammar (spelling ++ (front ++ rest)) kind (front ++ rest) →
      Reaches rest (start + byteSize gap + byteSize spelling) front tokens →
      Reaches rest start (gap ++ spelling ++ front)
        ({ kind
           start := start + byteSize gap
           stop := start + byteSize gap + byteSize spelling
           spelling := String.ofList spelling } :: tokens)

/-- The token at another place of the text. -/
def Token.shift (distance : Nat) (token : Token) : Token :=
  { token with start := distance + token.start, stop := distance + token.stop }

/-! ### Whole texts -/

section Texts

variable {start : Nat} {front rest text : List Char} {tokens others : List Token}

/-- To reach the end of a text is to find its tokens. -/
theorem tokenized_iff_reaches : Tokenized start text tokens ↔ Reaches [] start text tokens := by
  constructor
  · intro tokenized
    induction tokenized with
    | gap isGap => exact .gap isGap
    | token isGap solid first _ ih => exact .token (by simpa) (by simpa) (by simpa) ih
  · intro reaches
    induction reaches with
    | gap isGap => exact .gap isGap
    | token isGap solid first _ ih =>
      rw [List.append_nil] at isGap solid first
      exact .token isGap solid first ih

theorem reaches_scanTokens (text : String) : Reaches [] 0 text.toList (scanTokens text) :=
  tokenized_iff_reaches.1 (tokenized_scan 0 text.toList)

theorem Reaches.eq_scanTokens {text : List Char} (reaches : Reaches [] 0 text tokens) :
    scanTokens (String.ofList text) = tokens := by
  rw [scanTokens, String.toList_ofList]
  exact (tokenized_iff_reaches.2 reaches).eq_scan.symm

theorem IsGap.append {gap other rest : List Char} (isGap : IsGap gap (other ++ rest))
    (behind : IsGap other rest) : IsGap (gap ++ other) rest := by
  generalize whole : other ++ rest = text at isGap
  induction isGap with
  | nil => exact behind
  | blank white _ ih => exact .blank white (ih whole)
  | @lineComment body gap text oneLine ended _ ih =>
    subst whole
    rw [← List.append_assoc] at ended
    have comment := IsGap.lineComment oneLine ended (ih rfl)
    rwa [← List.append_assoc] at comment
  | @blockComment body gap text first _ ih =>
    have comment := IsGap.blockComment first (ih whole)
    simpa only [List.cons_append, List.append_assoc] using comment
  | openComment never =>
    obtain ⟨rfl, rfl⟩ := List.append_eq_nil_iff.1 whole
    rw [List.append_nil]
    exact .openComment never

/-- The scanner goes on from a place that it reaches. -/
theorem Reaches.append {behind : List Char} (reaches : Reaches (behind ++ rest) start front tokens)
    (goesOn : Reaches rest (start + byteSize front) behind others) :
    Reaches rest start (front ++ behind) (tokens ++ others) := by
  induction reaches with
  | @gap start gap isGap =>
    -- the gap in front of the place and the one behind it are one gap
    cases goesOn with
    | gap isGap' => exact .gap (isGap.append isGap')
    | @token _ gap' spelling front kind tokens isGap' solid first later =>
      rw [List.append_assoc, List.append_assoc] at isGap
      have size : start + byteSize (gap ++ gap') = start + byteSize gap + byteSize gap' := by
        rw [byteSize_append, Nat.add_assoc]
      rw [← size] at later ⊢
      have joined := Reaches.token (isGap.append isGap') solid first later
      rwa [List.append_assoc, List.append_assoc, ← List.append_assoc gap'] at joined
  | @token start gap spelling front kind tokens isGap solid first _ ih =>
    rw [← List.append_assoc front] at isGap solid first
    rw [List.append_assoc (gap ++ spelling), List.cons_append]
    refine .token isGap solid first (ih ?_)
    simpa only [byteSize_append, Nat.add_assoc] using goesOn

theorem Reaches.shift (reaches : Reaches rest start front tokens) (distance : Nat) :
    Reaches rest (distance + start) front (tokens.map (Token.shift distance)) := by
  induction reaches with
  | gap isGap => exact .gap isGap
  | token isGap solid first _ ih =>
    rw [← Nat.add_assoc, ← Nat.add_assoc] at ih
    have moved := Reaches.token isGap solid first ih
    rw [List.map_cons]
    simpa only [Token.shift, Nat.add_assoc] using moved

/-- The tokens of a text are those of the front and those of the rest, which stand behind it. -/
theorem scanTokens_of_reaches (reaches : Reaches rest 0 front tokens) :
    scanTokens (String.ofList (front ++ rest)) =
      tokens ++ (scanTokens (String.ofList rest)).map (Token.shift (byteSize front)) := by
  have others := (reaches_scanTokens (String.ofList rest)).shift (byteSize front)
  rw [String.toList_ofList] at others
  apply Reaches.eq_scanTokens
  refine Reaches.append ?_ ?_
  · rwa [List.append_nil]
  · rwa [Nat.zero_add]

theorem Reaches.stop_le (reaches : Reaches rest start front tokens) :
    ∀ token ∈ tokens, token.stop ≤ start + byteSize front := by
  induction reaches with
  | gap => simp
  | token _ _ _ _ ih =>
    simp only [byteSize_append, List.forall_mem_cons] at ih ⊢
    refine ⟨by omega, fun token member => ?_⟩
    have behind := ih token member
    omega

end Texts

/-! ### Cutting in front of a token -/

theorem FirstOf.spelling_ne_nil {spelling rest : List Char} {kind : TokenKind}
    (first : FirstOf tokenGrammar (spelling ++ rest) kind rest) : spelling ≠ [] := by
  rintro rfl
  have shorter := (takeToken_shortens _ _ _ (takeToken_eq_some_iff.2 first)).2
  exact Nat.lt_irrefl _ shorter

/-- A token in a front of the text starts at a place that the scanner reaches. -/
theorem Reaches.exists_split {rest front : List Char} {start : Nat} {tokens : List Token}
    (reaches : Reaches rest start front tokens) {token : Token} (member : token ∈ tokens) :
    ∃ before spelling behind found, front = before ++ (spelling ++ behind) ∧
      token.start = start + byteSize before ∧ token.stop = token.start + byteSize spelling ∧
      Reaches (spelling ++ (behind ++ rest)) start before found ∧
      FirstOf tokenGrammar (spelling ++ (behind ++ rest)) token.kind (behind ++ rest) := by
  induction reaches with
  | gap => cases member
  | @token start gap spelling front kind tokens isGap solid first _ ih =>
    rcases List.mem_cons.1 member with rfl | later
    · exact ⟨gap, spelling, front, [], List.append_assoc .., rfl, rfl, .gap isGap, first⟩
    · -- the token is further on, where the place is reached behind this one as well
      obtain ⟨before, own, behind, found, rfl, starts, stops, reaches, ownFirst⟩ := ih later
      rw [List.append_assoc, List.append_assoc] at isGap solid first
      have size : token.start = start + byteSize (gap ++ spelling ++ before) := by
        rw [starts]
        simp only [byteSize_append, Nat.add_assoc]
      exact ⟨gap ++ spelling ++ before, own, behind, _, (List.append_assoc ..).symm, size, stops,
        .token isGap solid first reaches, ownFirst⟩

/-- Two fronts of one text that take up the same bytes are the same. -/
theorem eq_of_byteSize_eq {front front' rest rest' : List Char}
    (whole : front ++ rest = front' ++ rest') (size : byteSize front = byteSize front') :
    front = front' ∧ rest = rest' := by
  induction front generalizing front' with
  | nil =>
    cases front' with
    | nil => exact ⟨rfl, whole⟩
    | cons c front' =>
      -- no character takes up nothing
      have := c.utf8Size_pos
      simp at size
      omega
  | cons c front ih =>
    cases front' with
    | nil =>
      have := c.utf8Size_pos
      simp at size
      omega
    | cons d front' =>
      obtain ⟨rfl, more⟩ := List.cons.inj whole
      obtain ⟨rfl, rfl⟩ := ih more (by simpa using size)
      exact ⟨rfl, rfl⟩

/-- The scanner reaches the place in front of a token and takes the token off there. -/
theorem reaches_of_mem_scanTokens {front spelling rest : List Char} {token : Token}
    (member : token ∈ scanTokens (String.ofList (front ++ (spelling ++ rest))))
    (starts : token.start = byteSize front) (stops : token.stop = byteSize (front ++ spelling)) :
    ∃ found, Reaches (spelling ++ rest) 0 front found ∧
      takeToken (spelling ++ rest) = some (token.kind, rest) := by
  have reached := reaches_scanTokens (String.ofList (front ++ (spelling ++ rest)))
  rw [String.toList_ofList] at reached
  obtain ⟨before, own, behind, found, whole, ownStarts, ownStops, reaches, first⟩ :=
    reached.exists_split member
  rw [List.append_nil] at reaches first
  -- the text is cut at the same bytes twice, so the parts are the same
  obtain ⟨rfl, same⟩ := eq_of_byteSize_eq whole (by omega)
  have size : byteSize spelling = byteSize own := by
    rw [byteSize_append] at stops
    omega
  obtain ⟨rfl, rfl⟩ := eq_of_byteSize_eq same size
  exact ⟨found, reaches, takeToken_eq_some_iff.2 first⟩

theorem map_kind_shift (distance : Nat) (tokens : List Token) :
    (tokens.map (Token.shift distance)).map Token.kind = tokens.map Token.kind := by
  rw [List.map_map]
  rfl

/-- What the tokens of a text are when one of them is taken off behind a front. -/
theorem map_kind_scanTokens {front spelling rest : List Char} {found : List Token}
    {kind : TokenKind} (reaches : Reaches (spelling ++ rest) 0 front found)
    (solid : ¬ StartsGap (spelling ++ rest))
    (taken : takeToken (spelling ++ rest) = some (kind, rest)) :
    (scanTokens (String.ofList (front ++ (spelling ++ rest)))).map Token.kind =
      found.map Token.kind ++ kind :: (scanTokens (String.ofList rest)).map Token.kind := by
  have own := @Reaches.token rest 0 [] spelling [] kind [] .nil solid
    (takeToken_eq_some_iff.1 taken) (.gap .nil)
  rw [List.append_nil, List.nil_append] at own
  rw [scanTokens_of_reaches reaches, scanTokens_of_reaches own, List.map_append, map_kind_shift,
    List.map_append, map_kind_shift]
  rfl

/-- What the scanner finds in front of a place does not depend on the text behind that place, as long
as both texts join the front and start a comment alike. -/
theorem Reaches.keeps {ahead ahead' front : List Char} {start : Nat} {tokens : List Token}
    (joins : Joins ahead) (joins' : Joins ahead')
    (slash : ahead'.head? = some '/' → ahead.head? = some '/')
    (reaches : Reaches ahead start front tokens) : Reaches ahead' start front tokens := by
  induction reaches with
  | @gap start gap isGap => exact .gap (@IsGap.keeps _ _ [] joins gap isGap)
  | @token start gap spelling front kind tokens isGap solid first _ ih =>
    have nonempty : spelling ++ front ≠ [] := by
      simp [first.spelling_ne_nil]
    rw [← List.append_assoc] at isGap solid
    refine .token ?_ ?_ (first.keeps joins joins' nonempty) ih
    · rw [← List.append_assoc]
      exact isGap.keeps joins
    · rw [← List.append_assoc]
      exact fun starts => solid (starts.keeps nonempty joins' slash)

end BombMission
