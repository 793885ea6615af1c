import BombMission.Compile
import BombMission.Proofs.Outline.Shape
import BombMission.Random.SplitMix

/-!
# Compiled missions

A text compiles exactly when its tokens are read without a problem, a bomb comes out and the host can
do what the text asks for. `compile_eq_ok_iff` says so and what the mission then is, so that what
holds of every text read without a problem holds of every compiled mission.
-/

namespace BombMission

variable {σ : Type} [RandomSource σ]

/-- What is known after all tokens of a text. -/
def readMissionText (ctx : Context) (text : String) (source : σ) : Progress σ :=
  readTokens ctx ((scanTokens text).map Token.kind) source

/-- The tokens of a text, each pool with what it comes to. -/
def resolveMissionText (ctx : Context) (text : String) (source : σ) : List ResolvedToken :=
  (resolveTokens ctx ((scanTokens text).map Token.kind) source).1

/-- The rule seed of the mission that a text makes. It is drawn behind all pools. -/
def settledRuleSeed (ctx : Context) (text : String) (source : σ) : Option RuleSeedSetting :=
  let progress := readMissionText ctx text source
  (settleRuleSeed ctx.limits progress.ruleSeed progress.source).1

theorem fst_compile (ctx : Context) (text : String) (source : σ) :
    (compile ctx text source).1 =
      (readMissionText ctx text source).outline.toMission ctx.limits
        (settledRuleSeed ctx text source) := rfl

theorem snd_compile (ctx : Context) (text : String) (source : σ) :
    (compile ctx text source).2 =
      (settleRuleSeed ctx.limits (readMissionText ctx text source).ruleSeed
        (readMissionText ctx text source).source).2 := rfl

theorem Outline.toMission_eq_ok_iff {outline : Outline} {limits : HostLimits}
    {ruleSeed : Option RuleSeedSetting} {mission : Mission} :
    outline.toMission limits ruleSeed = .ok mission ↔
      outline.problems limits = [] ∧ ∃ first extra, outline.bombs = first :: extra ∧
        mission = outline.mission first extra ruleSeed := by
  constructor
  · intro made
    unfold toMission at made
    split at made
    · cases made
    next first extra bombs clean =>
      exact ⟨clean, first, extra, bombs, (Except.ok.inj made).symm⟩
    · cases made
  · rintro ⟨clean, first, extra, bombs, rfl⟩
    unfold toMission
    rw [clean, bombs]

theorem Outline.problems_eq_nil_iff {outline : Outline} {limits : HostLimits} :
    outline.problems limits = [] ↔
      outline.diagnostics = [] ∧ (outline.ruleSeed.isSome = true → limits.ruleSeed = true) := by
  simp [problems]

theorem eq_ok_of_toOption {ε α : Type} {result : Except ε α} {value : α}
    (found : result.toOption = some value) : result = .ok value := by
  cases result with
  | error => cases found
  | ok made => rw [Option.some.inj found]

theorem compile_eq_ok_iff {ctx : Context} {text : String} {source : σ} {mission : Mission} :
    (compile ctx text source).1 = .ok mission ↔
      (readMissionText ctx text source).diagnostics = [] ∧
        ((readMissionText ctx text source).ruleSeed.isSome = true → ctx.limits.ruleSeed = true) ∧
        ∃ first extra, (readMissionText ctx text source).bombs = first :: extra ∧
          mission = (readMissionText ctx text source).outline.mission first extra
            (settledRuleSeed ctx text source) := by
  rw [fst_compile, Outline.toMission_eq_ok_iff, Outline.problems_eq_nil_iff, and_assoc]
  rfl

/-- The bombs and profiles of a compiled mission are those that its tokens planned. -/
theorem bombs_of_compile {ctx : Context} {text : String} {source : σ} {mission : Mission}
    (made : (compile ctx text source).1 = .ok mission) :
    (readMissionText ctx text source).diagnostics = [] ∧
      (readMissionText ctx text source).bombs ≠ [] ∧
      mission.bombs = (readMissionText ctx text source).bombs.map PlannedBomb.bomb ∧
      mission.moduleProfiles =
        (readMissionText ctx text source).bombs.map PlannedBomb.profiles := by
  obtain ⟨clean, -, first, extra, planned, rfl⟩ := compile_eq_ok_iff.1 made
  rw [planned]
  exact ⟨clean, List.cons_ne_nil _ _, rfl, rfl⟩

/-- The text of a compiled mission is bombs that a closing bracket dropped and behind them either one
more bomb outside groups or groups with settings between them. Its bombs and profiles are read off
that bomb, or off the groups with as many copies as they ask for. -/
theorem compile_shape {ctx : Context} {text : String} {source : σ} {mission : Mission}
    (made : (compile ctx text source).1 = .ok mission) :
    (resolveMissionText ctx text source).map ResolvedToken.kind = (scanTokens text).map Token.kind ∧
      ∃ plans : List PlannedBomb, mission.bombs = plans.map PlannedBomb.bomb ∧
        mission.moduleProfiles = plans.map PlannedBomb.profiles ∧
        MissionShape (resolveMissionText ctx text source) plans := by
  obtain ⟨clean, -, bombs, profiles⟩ := bombs_of_compile made
  have kinds := map_kind_resolveTokens ctx ((scanTokens text).map Token.kind) source
  have shape := readTokens_missionShape clean
  exact ⟨kinds, (readMissionText ctx text source).bombs, bombs, profiles, shape⟩

/-- A dropped bomb, a group of two and another group. -/
theorem compile_shape_dropped : ∃ mission,
    (compile {} "5:00 Keypad) 2*(9:00 Wires) nopacing (Maze)" (SplitMix.ofSeed 0)).1 = .ok mission ∧
      mission.bombs.length = 3 ∧ ∃ plans, mission.bombs = plans.map PlannedBomb.bomb ∧
        MissionShape (resolveMissionText {} "5:00 Keypad) 2*(9:00 Wires) nopacing (Maze)"
          (SplitMix.ofSeed 0)) plans := by
  have three : (compile {} "5:00 Keypad) 2*(9:00 Wires) nopacing (Maze)"
      (SplitMix.ofSeed 0)).1.toOption.map (fun mission => mission.bombs.length) = some 3 := by
    decide +kernel
  obtain ⟨mission, found, counted⟩ := Option.map_eq_some_iff.1 three
  have made := eq_ok_of_toOption found
  obtain ⟨-, plans, bombs, -, shape⟩ := compile_shape made
  exact ⟨mission, made, counted, plans, bombs, shape⟩

end BombMission
