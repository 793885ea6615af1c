import BombMission.Proofs.Mission.Compiled

/-!
# Failed compilations

A text fails to compile exactly when there is something to tell, and the error tells all of it: every
problem that was found while the text was read, in that order, and behind them a rule seed that the
host cannot apply. In particular an error is never empty, since a text that makes no bomb has said
why.

## Main results

* `Progress.finish_accounted`: whatever a reading came to, a text that ends without a bomb ends with
  a problem.
* `compile_fails_iff`: when a text fails, what its error says, and that a mission has a bomb.
-/

namespace BombMission

/-- What the tokens of a text say. -/
def outlineText {σ : Type} [RandomSource σ] (ctx : Context) (text : String) (source : σ) : Outline :=
  (Outline.ofTokens ctx ((scanTokens text).map Token.kind) source).1

namespace Outline

/-- A missing mission is accounted for: without a bomb there is some problem. -/
def Accounted (outline : Outline) : Prop :=
  outline.bombs = [] → outline.diagnostics ≠ []

/-- A rule seed was asked for, and the host cannot apply one. -/
def SeedRefused (outline : Outline) (limits : HostLimits) : Prop :=
  outline.ruleSeed.isSome = true ∧ limits.ruleSeed = false

instance (outline : Outline) (limits : HostLimits) : Decidable (outline.SeedRefused limits) :=
  inferInstanceAs (Decidable (_ ∧ _))

variable {outline : Outline} {limits : HostLimits}

theorem problems_eq : outline.problems limits =
    outline.diagnostics ++ if outline.SeedRefused limits then [.ruleSeedUnavailable] else [] := by
  cases asked : outline.ruleSeed.isSome <;> cases offered : limits.ruleSeed <;>
    simp [problems, SeedRefused, asked, offered]

theorem problems_ne_nil_iff : outline.problems limits ≠ [] ↔
    outline.diagnostics ≠ [] ∨ outline.SeedRefused limits := by
  by_cases refused : outline.SeedRefused limits <;> simp [problems_eq, refused]

/-- The message for a mission without bombs is never needed once their lack is accounted for. -/
theorem Accounted.toMission_eq_error_iff (accounted : outline.Accounted)
    {ruleSeed : Option RuleSeedSetting} {error : CompileError} :
    outline.toMission limits ruleSeed = .error error ↔
      outline.problems limits ≠ [] ∧ error.diagnostics = outline.problems limits := by
  cases found : outline.problems limits with
  | nil =>
    have clean : outline.diagnostics = [] := by
      by_contra reported
      exact problems_ne_nil_iff.2 (.inl reported) found
    cases planned : outline.bombs with
    | nil => exact absurd clean (accounted planned)
    | cons first extra => simp [toMission, planned, found]
  | cons problem problems =>
    obtain ⟨diagnostics⟩ := error
    cases planned : outline.bombs <;> simp [toMission, planned, found, eq_comm]

end Outline

theorem Progress.finish_accounted {σ : Type} (progress : Progress σ) (limits : HostLimits) :
    (progress.finish limits).outline.Accounted := by
  intro empty
  cases found : progress.scope with
  | mission =>
    -- the end of the text outside bombs reports a mission that has none
    have none : progress.bombs = [] := by
      simpa [finish, found, outline, reportIf, reportAll] using empty
    simp [finish, found, outline, none]
  | single draft => simp [finish, found, outline] at empty
  | group draft copies => simp [finish, found, outline]

theorem outlineText_accounted {σ : Type} [RandomSource σ] (ctx : Context) (text : String)
    (source : σ) : (outlineText ctx text source).Accounted :=
  Progress.finish_accounted _ ctx.limits

/-- A text fails exactly when there was a problem, or a rule seed that the host cannot apply. Its error
then holds these in order and nothing else. -/
theorem compile_fails_iff {σ : Type} [RandomSource σ] (ctx : Context) (text : String) (source : σ) :
    (∀ error, (compile ctx text source).1 = .error error ↔
      ((outlineText ctx text source).diagnostics ≠ [] ∨
        (outlineText ctx text source).SeedRefused ctx.limits) ∧
      error.diagnostics = (outlineText ctx text source).diagnostics ++
        if (outlineText ctx text source).SeedRefused ctx.limits then [.ruleSeedUnavailable]
        else []) ∧
    (∀ error, (compile ctx text source).1 = .error error → error.diagnostics ≠ []) ∧
    ((outlineText ctx text source).bombs = [] → (outlineText ctx text source).diagnostics ≠ []) ∧
    ∀ mission, (compile ctx text source).1 = .ok mission → mission.bombs ≠ [] := by
  have accounted := outlineText_accounted ctx text source
  have failed : ∀ error, (compile ctx text source).1 = .error error ↔
      (outlineText ctx text source).problems ctx.limits ≠ [] ∧
        error.diagnostics = (outlineText ctx text source).problems ctx.limits := by
    intro error
    exact accounted.toMission_eq_error_iff
  refine ⟨?_, ?_, accounted, ?_⟩
  · intro error
    rw [failed, Outline.problems_ne_nil_iff, Outline.problems_eq]
  · intro error fails
    obtain ⟨some, all⟩ := (failed error).1 fails
    rwa [all]
  · intro mission made
    obtain ⟨-, filled, bombs, -⟩ := bombs_of_compile made
    simpa [bombs] using filled

/-- A group without copies and a rule seed that the host cannot apply. -/
theorem compile_fails_iff_refused :
    (compile {} "0*(Wires) ruleseed:3" (SplitMix.ofSeed 0)).1 =
      .error { diagnostics := [.invalidRepeatCount, .noSolvableModules none,
        .ruleSeedUnavailable] } := by
  obtain ⟨fails, -⟩ := compile_fails_iff {} "0*(Wires) ruleseed:3" (SplitMix.ofSeed 0)
  apply (fails _).2
  constructor
  · left
    decide +kernel
  · decide +kernel

end BombMission
