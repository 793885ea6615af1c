import BombMission.Proofs.Mission.Compiled
import BombMission.Proofs.Outline.Chance

/-!
# Chance in compiled missions

Whether a text compiles, and every problem of one that does not, is settled by the text and the
context. The random source only picks modules for unique pools and the value of a random rule seed.

## Main results

* `compile_alike`: compilations of one text from two sources are alike, and they are equal, with the
  sources as they were, when nothing is drawn.

## Proof strategy

`readTokens_alike` carries two readings through the text. What is left is the assembly: the markers
of alike bombs are alike, and a rule seed is drawn after everything else.
-/

namespace BombMission

/-! ### Alike missions -/

/-- Pools of generator settings are alike, or both are markers that hold alike bombs. -/
inductive Pool.AlikePacked : Pool → Pool → Prop where
  | pool {pool other : Pool} (pools : pool.Alike other) : Pool.AlikePacked pool other
  | bomb (place : Nat) {bomb other : Bomb} (bombs : bomb.Alike Pool.Alike other) :
      Pool.AlikePacked (bombMarker place bomb) (bombMarker place other)

/-- Rule seeds are the same, or both were drawn for a request for a random one. -/
inductive RuleSeedSetting.Alike : Option RuleSeedSetting → Option RuleSeedSetting → Prop where
  | same (seed : Option RuleSeedSetting) : RuleSeedSetting.Alike seed seed
  | random (value other : Nat) : RuleSeedSetting.Alike (some { requested := .random, value })
      (some { requested := .random, value := other })

/-- Missions agree in everything but drawn modules and the value of a random rule seed. -/
structure Mission.Alike (mission other : Mission) : Prop where
  displayName : mission.displayName = other.displayName
  bombs : List.Forall₂ (Bomb.Alike Pool.Alike) mission.bombs other.bombs
  generatorSetting : mission.generatorSetting.Alike Pool.AlikePacked other.generatorSetting
  pacingEventsEnabled : mission.pacingEventsEnabled = other.pacingEventsEnabled
  factoryMode : mission.factoryMode = other.factoryMode
  ruleSeed : RuleSeedSetting.Alike mission.ruleSeed other.ruleSeed
  moduleProfiles : mission.moduleProfiles = other.moduleProfiles

/-- Both compilations fail with the same problems in the same order, or make alike missions. -/
inductive ResultsAlike : Except CompileError Mission → Except CompileError Mission → Prop where
  | failed (error : CompileError) : ResultsAlike (.error error) (.error error)
  | made {mission other : Mission} (missions : mission.Alike other) :
      ResultsAlike (.ok mission) (.ok other)

/-! ### Assembly -/

theorem forall₂_mapIdx {α β γ δ : Type} {R : α → β → Prop} {S : γ → δ → Prop} {f : Nat → α → γ}
    {g : Nat → β → δ} (keeps : ∀ place a b, R a b → S (f place a) (g place b)) {items : List α}
    {others : List β} (related : List.Forall₂ R items others) :
    List.Forall₂ S (items.mapIdx f) (others.mapIdx g) := by
  induction related generalizing f g with
  | nil => exact .nil
  | cons first _ ih =>
    rw [List.mapIdx_cons, List.mapIdx_cons]
    exact .cons (keeps 0 _ _ first) (ih fun place => keeps (place + 1))

theorem extraMarkers_alike {extra others : List Bomb}
    (bombs : List.Forall₂ (Bomb.Alike Pool.Alike) extra others) :
    List.Forall₂ Pool.AlikePacked (extraMarkers extra) (extraMarkers others) := by
  cases bombs with
  | nil => exact .nil
  | cons first later =>
    -- the first marker only counts, the others hold one bomb each
    unfold extraMarkers
    refine .cons ?_ (forall₂_mapIdx (fun place _ _ bombs => .bomb (place + 1) bombs)
      (.cons first later))
    rw [List.length_cons, List.length_cons, later.length_eq]
    exact .pool (.same _)

theorem generatorSetting_alike {first other : Bomb} (bombs : first.Alike Pool.Alike other)
    {extra others : List Bomb} (later : List.Forall₂ (Bomb.Alike Pool.Alike) extra others)
    {mode otherMode : Option FactoryMode} (modes : mode = otherMode) :
    (generatorSetting first extra mode).Alike Pool.AlikePacked
      (generatorSetting other others otherMode) := by
  subst modes
  have own : List.Forall₂ Pool.AlikePacked first.pools other.pools :=
    bombs.pools.imp fun _ _ => .pool
  have factory : List.Forall₂ Pool.AlikePacked (factoryMarkers mode) (factoryMarkers mode) :=
    List.forall₂_same.2 fun pool _ => .pool (.same pool)
  exact ⟨bombs.timeLimit, bombs.strikeLimit, bombs.needyActivationTime, bombs.widgetCount,
    bombs.frontFaceOnly, List.rel_append (List.rel_append own (extraMarkers_alike later)) factory⟩

section Assembly

variable {σ τ : Type} [RandomSource σ] [RandomSource τ]

theorem settleRuleSeed_alike (limits : HostLimits) (requested : Option RuleSeed) (source : σ)
    (other : τ) :
    RuleSeedSetting.Alike (settleRuleSeed limits requested source).1
      (settleRuleSeed limits requested other).1 := by
  unfold settleRuleSeed
  cases requested with
  | none => exact .same none
  | some requested =>
    dsimp only
    split
    -- only a request for a random seed looks at the source
    · cases requested with
      | fixed seed => exact .same _
      | random => exact .random _ _
    · exact .same none

theorem settleRuleSeed_of_undrawn {limits : HostLimits} {requested : Option RuleSeed}
    (undrawn : requested = some .random → limits.ruleSeed = false) (source : σ) (other : τ) :
    (settleRuleSeed limits requested source).1 = (settleRuleSeed limits requested other).1 ∧
      (settleRuleSeed limits requested source).2 = source := by
  unfold settleRuleSeed
  cases requested with
  | none => exact ⟨rfl, rfl⟩
  | some requested =>
    cases requested with
    | fixed seed =>
      dsimp only
      split <;> exact ⟨rfl, rfl⟩
    | random =>
      rw [undrawn rfl]
      exact ⟨rfl, rfl⟩

end Assembly

theorem bombs_alike {plans others : List PlannedBomb}
    (alike : List.Forall₂ (PlannedBomb.Alike Pool.Alike) plans others) :
    List.Forall₂ (Bomb.Alike Pool.Alike) (plans.map PlannedBomb.bomb)
      (others.map PlannedBomb.bomb) := by
  rw [List.forall₂_map_left_iff, List.forall₂_map_right_iff]
  exact alike.imp fun _ _ plans => plans.bomb

theorem profiles_eq_of_alike {plans others : List PlannedBomb}
    (alike : List.Forall₂ (PlannedBomb.Alike Pool.Alike) plans others) :
    plans.map PlannedBomb.profiles = others.map PlannedBomb.profiles := by
  have equal : List.Forall₂ Eq (plans.map PlannedBomb.profiles)
      (others.map PlannedBomb.profiles) := by
    rw [List.forall₂_map_left_iff, List.forall₂_map_right_iff]
    exact alike.imp fun _ _ plans => plans.profiles
  rwa [List.forall₂_eq_eq_eq] at equal

/-- Outlines agree in everything but drawn modules. -/
structure Outline.Alike (outline other : Outline) : Prop where
  bombs : List.Forall₂ (PlannedBomb.Alike Pool.Alike) outline.bombs other.bombs
  pacingEventsEnabled : outline.pacingEventsEnabled = other.pacingEventsEnabled
  factoryMode : outline.factoryMode = other.factoryMode
  ruleSeed : outline.ruleSeed = other.ruleSeed
  diagnostics : outline.diagnostics = other.diagnostics

theorem Outline.Alike.toMission {outline other : Outline} (alike : outline.Alike other)
    (limits : HostLimits) {seed otherSeed : Option RuleSeedSetting}
    (seeds : RuleSeedSetting.Alike seed otherSeed) :
    ResultsAlike (outline.toMission limits seed) (other.toMission limits otherSeed) := by
  have problems : outline.problems limits = other.problems limits := by
    rw [Outline.problems, Outline.problems, alike.diagnostics, alike.ruleSeed]
  have bombs := alike.bombs
  unfold Outline.toMission
  rw [problems]
  generalize outline.bombs = planned at bombs
  generalize other.bombs = otherPlanned at bombs
  -- both have a first bomb or none has, and then only the problems decide
  cases bombs with
  | nil => cases other.problems limits <;> exact .failed _
  | cons first later =>
    cases other.problems limits with
    | cons => exact .failed _
    | nil =>
      exact .made ⟨rfl, bombs_alike (.cons first later),
        generatorSetting_alike first.bomb (bombs_alike later) alike.factoryMode,
        alike.pacingEventsEnabled, alike.factoryMode, seeds,
        profiles_eq_of_alike (.cons first later)⟩

theorem Progress.Alike.outline {σ τ : Type} {progress : Progress σ} {other : Progress τ}
    (alike : progress.Alike Pool.Alike other) : progress.outline.Alike other.outline :=
  ⟨alike.bombs, alike.pacingEventsEnabled, alike.factoryMode, alike.ruleSeed, alike.diagnostics⟩

theorem Progress.Alike.outline_eq {σ τ : Type} {progress : Progress σ} {other : Progress τ}
    (alike : progress.Alike Eq other) : progress.outline = other.outline := by
  have bombs : progress.bombs = other.bombs := by
    have equal := alike.bombs.imp fun _ _ plans => PlannedBomb.eq_of_alike plans
    rwa [List.forall₂_eq_eq_eq] at equal
  simp only [Progress.outline, bombs, alike.pacingEventsEnabled, alike.factoryMode, alike.ruleSeed,
    alike.diagnostics]

variable {σ τ : Type} [RandomSource σ] [RandomSource τ] {ctx : Context} {text : String}

/-- A text draws nothing: it has no unique pool that is resolved, and the host does not settle a
request for a random rule seed, as which a bad request counts too. -/
structure DrawsNothing (ctx : Context) (text : String) (source : σ) : Prop where
  pools : Progress.drawsAny ctx { source } ((scanTokens text).map Token.kind) = false
  ruleSeed : (readMissionText ctx text source).ruleSeed = some .random → ctx.limits.ruleSeed = false

/-- The random source never decides whether a text compiles, nor what is wrong with it, and a text
that draws nothing compiles to the same from every source. -/
theorem compile_alike (source : σ) (other : τ) :
    ResultsAlike (compile ctx text source).1 (compile ctx text other).1 ∧
      (DrawsNothing ctx text source →
        (compile ctx text source).1 = (compile ctx text other).1 ∧
          (compile ctx text source).2 = source ∧ (compile ctx text other).2 = other) := by
  constructor
  · have alike : (readMissionText ctx text source).Alike Pool.Alike
        (readMissionText ctx text other) := readTokens_alike source other
    have seeds := settleRuleSeed_alike ctx.limits (readMissionText ctx text source).ruleSeed
      (readMissionText ctx text source).source (readMissionText ctx text other).source
    rw [fst_compile, fst_compile]
    refine alike.outline.toMission ctx.limits ?_
    rwa [settledRuleSeed, settledRuleSeed, ← alike.ruleSeed]
  -- both readings end in one outline with their sources untouched, and the seed takes no draw
  · intro undrawn
    obtain ⟨alike, kept, otherKept⟩ : (readMissionText ctx text source).Alike Eq
        (readMissionText ctx text other) ∧ (readMissionText ctx text source).source = source ∧
          (readMissionText ctx text other).source = other :=
      readTokens_of_undrawn undrawn.pools other
    have settled := settleRuleSeed_of_undrawn undrawn.ruleSeed source other
    have otherSettled := settleRuleSeed_of_undrawn undrawn.ruleSeed other source
    refine ⟨?_, ?_, ?_⟩
    · rw [fst_compile, fst_compile, alike.outline_eq, settledRuleSeed, settledRuleSeed, kept,
        otherKept, ← alike.ruleSeed, settled.1]
    · rw [snd_compile, kept]
      exact settled.2
    · rw [snd_compile, otherKept, ← alike.ruleSeed]
      exact otherSettled.2

/-- A fixed rule seed and a plain pool make one mission from two sources. -/
theorem compile_alike_fixed : ∃ mission,
    DrawsNothing { limits := { ruleSeed := true } } "ruleseed:7 2*Wires,Maze" (SplitMix.ofSeed 1) ∧
      (compile { limits := { ruleSeed := true } } "ruleseed:7 2*Wires,Maze"
          (SplitMix.ofSeed 1)).1 = .ok mission ∧
      (compile { limits := { ruleSeed := true } } "ruleseed:7 2*Wires,Maze"
          (SplitMix.ofSeed 2)).1 = .ok mission := by
  have undrawn : DrawsNothing { limits := { ruleSeed := true } } "ruleseed:7 2*Wires,Maze"
      (SplitMix.ofSeed 1) :=
    ⟨by decide +kernel, by decide +kernel⟩
  have compiles : (compile { limits := { ruleSeed := true } } "ruleseed:7 2*Wires,Maze"
      (SplitMix.ofSeed 1)).1.toOption.isSome = true := by
    decide +kernel
  obtain ⟨mission, found⟩ := Option.isSome_iff_exists.1 compiles
  have made := eq_ok_of_toOption found
  have same := ((compile_alike (SplitMix.ofSeed 1) (SplitMix.ofSeed 2)).2 undrawn).1
  exact ⟨mission, undrawn, made, same.symm.trans made⟩

end BombMission
