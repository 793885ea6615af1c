import BombMission.Compile
import BombMission.Proofs.Outline.Words
import BombMission.Random.SplitMix

/-!
# Compiling on machine words

A text of up to 128 MiB compiles on machine words just as it does on numbers. Every group of digits
fits the word that it is parsed into, and so do the seconds of a time. A bomb has no more places than
its pools ask for; there are no more pools than bytes, and none asks for more than nine digits can
say. So the sum of the places and two minutes for each of them stay within 64 bits, and only then is
the time limit cut to 32 bits. Nothing else bounds the sum, since a host may allow any number of
modules on a bomb.

## Main results

* `fits_of_small`: two minutes for each place of an open bomb fit 64 bits.
* `BombDraft.fitsWords`: what follows for finishing the bomb.
* `compile_withinWords`: the whole of it, for every text of that size.
-/

namespace BombMission

open Text

/-- Compiles a text on words, and breaks off when a number does not fit its word. -/
def Words.compile {σ : Type} [RandomSource σ] (ctx : Context) (text : String) (source : σ) :
    Except WordError (Except CompileError Mission × σ) := do
  let lexemes ← scan text.toList
  let progress ← run ctx { source } ((Lexeme.tokens 0 lexemes).map Token.kind)
  let ended ← finish progress ctx.limits
  return ended.outline.assemble ctx.limits ended.source

/-- The bomb is finished with exact numbers: the sum of its places, the limits that follow from it,
and what the sum is compared with. -/
structure BombDraft.FitsWords (draft : BombDraft) (limits : HostLimits) : Prop where
  sum : Words.places draft.pools = .ok (moduleCount draft.pools)
  product : moduleCount draft.pools * 120 ≤ maxLongWord
  finalize : ∀ defaults number, Words.finalize draft defaults limits number =
    .ok (draft.plan defaults, draft.problems limits number)
  timeLimit : ∀ defaults, draft.settings.valueOr defaults .time = none →
    (draft.plan defaults).bomb.timeLimit = min (120 * moduleCount draft.pools) maxWord
  strikeLimit : ∀ defaults, draft.settings.valueOr defaults .strikes = none →
    (draft.plan defaults).bomb.strikeLimit = min (max (moduleCount draft.pools / 12) 3) maxWord
  crowded : ∀ number,
    .tooManyModules (moduleCount draft.pools) limits.maxModules number ∈
      draft.problems limits number ↔ limits.maxModules < moduleCount draft.pools

theorem BombDraft.fitsWords {draft : BombDraft} (fits : 120 * draft.places ≤ maxLongWord)
    (limits : HostLimits) : draft.FitsWords limits := by
  have few : draft.places ≤ maxLongWord := by omega
  refine ⟨Words.places_eq few, Nat.mul_comm .. ▸ fits, ?_, ?_, ?_, ?_⟩
  · exact fun defaults number => Words.finalize_eq fits defaults limits number
  · intro defaults none
    simp [plan, none, defaultTimeLimit, places]
  · intro defaults none
    simp [plan, none, defaultStrikeLimit, places, Nat.max_comm]
  · intro number
    unfold problems places
    split <;> split <;> simp_all

section Small

variable {σ : Type} [RandomSource σ] {ctx : Context} {text : String} {source : σ}

/-- Behind every part of a small text the open bomb fits. -/
theorem fits_of_small (small : text.utf8ByteSize ≤ 0x8000000) {front : List TokenKind}
    (isPrefix : front <+: (scanTokens text).map Token.kind) :
    120 * (Progress.run ctx { source } front).scope.places ≤ maxLongWord := by
  have tokens := length_scanTokens_le text
  have shorter := isPrefix.length_le
  rw [List.length_map] at shorter
  have bounded : ∀ kind ∈ front, kind.Bounded := by
    intro kind member
    obtain ⟨token, inText, rfl⟩ := List.mem_map.1 (isPrefix.subset member)
    exact bounded_scanTokens text token inText
  have asked := placesAsked_le bounded
  have few := @Progress.places_run_le σ { source } _ ctx front
  have start : ({ source } : Progress σ).scope.places = 0 := rfl
  have long : maxLongWord = 18446744073709551615 := rfl
  -- a pool for each byte, nine digits of places for each pool: there is room for two minutes each
  omega

theorem Words.compile_eq (small : text.utf8ByteSize ≤ 0x8000000) :
    Words.compile ctx text source = .ok (BombMission.compile ctx text source) := by
  have kinds : (Lexeme.tokens 0 (Lexeme.scan text.toList)).map Token.kind =
      (scanTokens text).map Token.kind := rfl
  have read := @run_eq σ { source } _ ctx ((scanTokens text).map Token.kind) fun front isPrefix =>
    fits_of_small small isPrefix
  have fits := @fits_of_small σ _ ctx text source small _ (List.prefix_refl _)
  have ended := finish_eq fits ctx.limits
  rw [Words.compile, scan_eq, ok_bind, kinds, read, ok_bind, ended]
  rfl

/-- No arithmetic overflows in a text of up to 128 MiB. -/
theorem compile_withinWords (small : text.utf8ByteSize ≤ 0x8000000) :
    (∀ rest, Words.takeToken rest = .ok (takeToken rest)) ∧
      (∀ token ∈ scanTokens text, ∀ seconds, token.kind = .time seconds →
        seconds ≤ maxLongWord) ∧
      (∀ front draft, front <+: (scanTokens text).map Token.kind →
        (Progress.run ctx { source } front).scope.draft? = some draft →
          draft.FitsWords ctx.limits) ∧
      Words.compile ctx text source = .ok (compile ctx text source) := by
  refine ⟨Words.takeToken_eq, ?_, ?_, Words.compile_eq small⟩
  · intro token member seconds isTime
    have bounded := bounded_scanTokens text token member
    rw [isTime] at bounded
    exact Nat.le_trans bounded (by decide)
  · intro front draft isPrefix open_
    have fits := @fits_of_small σ _ ctx text source small front isPrefix
    refine BombDraft.fitsWords ?_ ctx.limits
    cases found : (Progress.run ctx { source } front).scope <;> rw [found] at fits open_ <;>
      cases open_ <;> exact fits

end Small

/-- A single pool may ask for so many places that two minutes for each do not fit 32 bits. -/
theorem compile_withinWords_saturated :
    "999999999*Keypad".utf8ByteSize ≤ 0x8000000 ∧
      Words.compile { limits := { maxModules := 999999999 } } "999999999*Keypad"
          (SplitMix.ofSeed 0) =
        .ok (compile { limits := { maxModules := 999999999 } } "999999999*Keypad"
          (SplitMix.ofSeed 0)) ∧
      (compile { limits := { maxModules := 999999999 } } "999999999*Keypad"
          (SplitMix.ofSeed 0)).1.toOption.map (fun mission =>
            mission.bombs.map fun bomb => (bomb.timeLimit, bomb.strikeLimit)) =
        some [(4294967295, 83333333)] := by
  have small : "999999999*Keypad".utf8ByteSize ≤ 0x8000000 := by decide
  exact ⟨small, (compile_withinWords small).2.2.2, by decide +kernel⟩

end BombMission
