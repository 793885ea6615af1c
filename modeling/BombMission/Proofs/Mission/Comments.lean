import BombMission.Compile
import BombMission.Proofs.Token.Reaches
import BombMission.Random.SplitMix

/-!
# What comments say

A comment that is closed may hold anything but what closes it: quotes, brackets, counts or the start
of another comment. The scanner gets to it between two tokens or not at all, and whether it does is
settled by the text in front of the comment alone, since that text is followed by a slash in any
case. Behind the comment it goes on with what is there.

## Main results

* `CommentForm.isGap_write`: a comment ends where it is closed, whatever stands behind it.
* `scanTokens_commented`: the tokens around a comment that is skipped.
* `comment_text_irrelevant`: another text in the comment moves the tokens behind it and changes
  nothing else.
-/

namespace BombMission

open Text

/-- A comment that ends in front of the end of the text, with its line or with a closing mark. -/
inductive CommentForm where
  | line
  | block
  deriving DecidableEq, Repr

namespace CommentForm

/-- The comment with some text in it. A comment on a line comes with the newline that ends it. -/
def write : CommentForm → (inside : List Char) → List Char
  | line, inside => '/' :: '/' :: (inside ++ ['\n'])
  | block, inside => '/' :: '*' :: (inside ++ ['*', '/'])

/-- Nothing in the text ends the comment. -/
def Holds : CommentForm → (inside : List Char) → Prop
  | line, inside => '\n' ∉ inside
  | block, inside => ¬ ['*', '/'] <:+: inside

theorem isGap_write {form : CommentForm} {inside : List Char} (holds : form.Holds inside)
    (rest : List Char) : IsGap (form.write inside) rest := by
  cases form with
  | line => exact .lineComment holds (.inr rfl) (.blank rfl .nil)
  | block =>
    refine .blockComment ?_ .nil
    -- the star of the closing mark does not close the comment before
    rw [List.infix_concat_iff]
    rintro (⟨front, same⟩ | before)
    · have last := congrArg List.getLast? same
      simp at last
    · exact holds before

/-- A comment joins what stands in front of it. -/
theorem joins_write (form : CommentForm) (inside rest : List Char) :
    Joins (form.write inside ++ rest) := by
  cases form <;> exact ⟨'/', _, rfl, rfl, by decide⟩

theorem head?_write (form : CommentForm) (inside rest : List Char) :
    (form.write inside ++ rest).head? = some '/' := by
  cases form <;> rfl

end CommentForm

/-- The scanner skips the comment behind a front: it gets there between two tokens. -/
def SkipsComment (form : CommentForm) (front inside behind : List Char) : Prop :=
  ∃ tokens, Reaches (form.write inside ++ behind) 0 front tokens

/-- The text with a comment between two parts of it. -/
def commented (form : CommentForm) (front inside behind : List Char) : String :=
  String.ofList (front ++ (form.write inside ++ behind))

variable {form : CommentForm} {front inside inside' behind : List Char}

theorem scanTokens_commented {tokens : List Token} (holds : form.Holds inside)
    (reaches : Reaches (form.write inside ++ behind) 0 front tokens) :
    scanTokens (commented form front inside behind) =
      tokens ++ (scanTokens (String.ofList behind)).map
        (Token.shift (byteSize (front ++ form.write inside))) := by
  have skipped : Reaches behind 0 (front ++ form.write inside) tokens := by
    have both := reaches.append (.gap (CommentForm.isGap_write holds behind))
    rwa [List.append_nil] at both
  rw [commented, ← List.append_assoc]
  exact scanTokens_of_reaches skipped

/-! ### Compiled texts -/

theorem compileTokens_congr {σ : Type} [RandomSource σ] {tokens tokens' : List Token}
    (alike : tokens.map Token.kind = tokens'.map Token.kind) (ctx : Context) (source : σ) :
    compileTokens ctx tokens source = compileTokens ctx tokens' source := by
  rw [compileTokens, compileTokens, alike]

/-- What is inside a comment never matters. A comment that is skipped is skipped with any other text
in it; the tokens in front of it stay where they are, those behind it are the tokens of the text
there, and the text compiles to the same. -/
theorem comment_text_irrelevant (holds : form.Holds inside) (holds' : form.Holds inside')
    (skipped : SkipsComment form front inside behind) :
    SkipsComment form front inside' behind ∧
      (∃ before, (∀ token ∈ before, token.stop ≤ byteSize front) ∧
        scanTokens (commented form front inside behind) =
          before ++ (scanTokens (String.ofList behind)).map
            (Token.shift (byteSize (front ++ form.write inside))) ∧
        scanTokens (commented form front inside' behind) =
          before ++ (scanTokens (String.ofList behind)).map
            (Token.shift (byteSize (front ++ form.write inside')))) ∧
      ∀ {σ : Type} [RandomSource σ] (ctx : Context) (source : σ),
        compile ctx (commented form front inside' behind) source =
          compile ctx (commented form front inside behind) source := by
  obtain ⟨before, reaches⟩ := skipped
  have reaches' : Reaches (form.write inside' ++ behind) 0 front before :=
    reaches.keeps (form.joins_write inside behind) (form.joins_write inside' behind)
      fun _ => form.head?_write inside behind
  have tokens := scanTokens_commented holds reaches
  have tokens' := scanTokens_commented holds' reaches'
  refine ⟨⟨before, reaches'⟩, ⟨before, ?_, tokens, tokens'⟩, ?_⟩
  · intro token member
    have ends := reaches.stop_le token member
    omega
  · intro σ _ ctx source
    refine compileTokens_congr ?_ ctx source
    rw [tokens, tokens', List.map_append, List.map_append, map_kind_shift, map_kind_shift]

/-- Neither a strike limit nor a quote that is never closed counts in a comment. -/
theorem comment_text_irrelevant_quote :
    CommentForm.block.Holds " 3X ".toList ∧ CommentForm.block.Holds "it's".toList ∧
      SkipsComment .block "2 * Wires ".toList " 3X ".toList ")".toList ∧
      SkipsComment .block "2 * Wires ".toList "it's".toList ")".toList ∧
      compile {} "2 * Wires /*it's*/)" (SplitMix.ofSeed 0) =
        compile {} "2 * Wires /* 3X */)" (SplitMix.ofSeed 0) := by
  have holds : CommentForm.block.Holds " 3X ".toList := by unfold CommentForm.Holds; decide
  have holds' : CommentForm.block.Holds "it's".toList := by unfold CommentForm.Holds; decide
  have skipped : SkipsComment .block "2 * Wires ".toList " 3X ".toList ")".toList := by
    have taken : takeToken "2 * Wires /* 3X */)".toList =
        some (.pool ⟨"Wires", some 2, false, false⟩, " /* 3X */)".toList) := by decide +kernel
    exact ⟨_, @Reaches.token _ 0 [] "2 * Wires".toList [' '] _ _ .nil (by simp [StartsGap, isBlank])
      (takeToken_eq_some_iff.1 taken) (.gap (.blank rfl .nil))⟩
  obtain ⟨skipped', -, alike⟩ := comment_text_irrelevant holds holds' skipped
  exact ⟨holds, holds', skipped, skipped', alike {} (SplitMix.ofSeed 0)⟩

end BombMission
