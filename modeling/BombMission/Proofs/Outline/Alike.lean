import BombMission.Proofs.Outline.Step

/-!
# Alike readings of a mission

Two readings of the same tokens may come to different pools. As long as these agree in what is read
of them, which is only the number of their places, the readings go through the same scopes and find
the same problems.

## Main results

* `Progress.Alike.step`: one token keeps two readings alike, if its pool comes to related pools.
* `Progress.Alike.finish`: so does the end of the text.

## Proof strategy

`Progress.Alike` relates two readings that may draw from sources of different kinds. It takes the
relation on pools as a parameter and asks for equality of everything else. Each operation on a
progress has one lemma, put together from those of the operations that it calls.
-/

namespace BombMission

/-! ### Alike bombs -/

/-- Bombs agree in all settings and, place by place, in pools that `R` relates. -/
structure Bomb.Alike (R : Pool → Pool → Prop) (bomb other : Bomb) : Prop where
  timeLimit : bomb.timeLimit = other.timeLimit
  strikeLimit : bomb.strikeLimit = other.strikeLimit
  needyActivationTime : bomb.needyActivationTime = other.needyActivationTime
  widgetCount : bomb.widgetCount = other.widgetCount
  frontFaceOnly : bomb.frontFaceOnly = other.frontFaceOnly
  pools : List.Forall₂ R bomb.pools other.pools

structure PlannedBomb.Alike (R : Pool → Pool → Prop) (plan other : PlannedBomb) : Prop where
  bomb : plan.bomb.Alike R other.bomb
  profiles : plan.profiles = other.profiles

structure BombDraft.Alike (R : Pool → Pool → Prop) (draft other : BombDraft) : Prop where
  settings : draft.settings = other.settings
  pools : List.Forall₂ R draft.pools other.pools
  hasSolvable : draft.hasSolvable = other.hasSolvable
  profiles : draft.profiles = other.profiles

structure Resolution.Alike (R : Pool → Pool → Prop) (resolution other : Resolution) : Prop where
  pools : List.Forall₂ R resolution.pools other.pools
  hasSolvable : resolution.hasSolvable = other.hasSolvable
  profile : resolution.profile = other.profile
  problems : resolution.problems = other.problems

inductive Scope.Alike (R : Pool → Pool → Prop) : Scope → Scope → Prop where
  | mission : Scope.Alike R .mission .mission
  | single {draft other : BombDraft} (drafts : draft.Alike R other) :
      Scope.Alike R (.single draft) (.single other)
  | group {draft other : BombDraft} (drafts : draft.Alike R other) (copies : Nat) :
      Scope.Alike R (.group draft copies) (.group other copies)

theorem Bomb.eq_of_alike {bomb other : Bomb} (alike : bomb.Alike Eq other) : bomb = other := by
  have pools := List.forall₂_eq_eq_eq ▸ alike.pools
  exact Bomb.mk.injEq .. ▸ ⟨alike.timeLimit, alike.strikeLimit, alike.needyActivationTime,
    alike.widgetCount, alike.frontFaceOnly, pools⟩

theorem PlannedBomb.eq_of_alike {plan other : PlannedBomb} (alike : plan.Alike Eq other) :
    plan = other :=
  PlannedBomb.mk.injEq .. ▸ ⟨Bomb.eq_of_alike alike.bomb, alike.profiles⟩

variable {R : Pool → Pool → Prop}

theorem moduleCount_eq_of_forall₂ (counts : ∀ pool other, R pool other → pool.count = other.count)
    {pools others : List Pool} (related : List.Forall₂ R pools others) :
    moduleCount pools = moduleCount others := by
  induction related with
  | nil => rfl
  | cons first _ ih => rw [moduleCount_cons, moduleCount_cons, counts _ _ first, ih]

namespace BombDraft.Alike

variable {draft other : BombDraft}

theorem of_settings {settings others : Settings} (same : settings = others) :
    BombDraft.Alike R { settings } { settings := others } :=
  ⟨same, .nil, rfl, rfl⟩

theorem changeSettings (alike : draft.Alike R other) (change : Settings → Settings) :
    (draft.changeSettings change).Alike R (other.changeSettings change) :=
  ⟨congrArg change alike.settings, alike.pools, alike.hasSolvable, alike.profiles⟩

theorem add (alike : draft.Alike R other) {resolution resolved : Resolution}
    (resolutions : resolution.Alike R resolved) :
    (draft.add resolution).Alike R (other.add resolved) := by
  refine ⟨alike.settings, List.rel_append alike.pools resolutions.pools, ?_, ?_⟩
  · simp [BombDraft.add, alike.hasSolvable, resolutions.hasSolvable]
  · simp [BombDraft.add, alike.profiles, resolutions.profile]

variable (counts : ∀ pool other, R pool other → pool.count = other.count)
include counts

theorem places (alike : draft.Alike R other) : draft.places = other.places :=
  moduleCount_eq_of_forall₂ counts alike.pools

theorem problems (alike : draft.Alike R other) (limits : HostLimits) (number : Option Nat) :
    draft.problems limits number = other.problems limits number := by
  rw [BombDraft.problems, BombDraft.problems, alike.hasSolvable, alike.places counts]

theorem plan (alike : draft.Alike R other) (defaults : Settings) :
    (draft.plan defaults).Alike R (other.plan defaults) := by
  constructor
  -- limits that follow from the number of places agree since the places do
  · constructor <;> simp only [BombDraft.plan, alike.settings, alike.places counts]
    exact alike.pools
  · exact alike.profiles

end BombDraft.Alike

/-! ### Alike readings -/

/-- Two readings have come to the same, but for pools. -/
structure Progress.Alike (R : Pool → Pool → Prop) {σ τ : Type} (progress : Progress σ)
    (other : Progress τ) : Prop where
  diagnostics : progress.diagnostics = other.diagnostics
  defaults : progress.defaults = other.defaults
  scope : progress.scope.Alike R other.scope
  groupsUsed : progress.groupsUsed = other.groupsUsed
  bombs : List.Forall₂ (PlannedBomb.Alike R) progress.bombs other.bombs
  pacingEventsEnabled : progress.pacingEventsEnabled = other.pacingEventsEnabled
  factorySpecified : progress.factorySpecified = other.factorySpecified
  factoryMode : progress.factoryMode = other.factoryMode
  ruleSeed : progress.ruleSeed = other.ruleSeed

namespace Scope.Alike

variable {scope other : Scope}

theorem isMission (alike : scope.Alike R other) : scope.isMission = other.isMission := by
  cases alike <;> rfl

theorem isGroup (alike : scope.Alike R other) : scope.isGroup = other.isGroup := by
  cases alike <;> rfl

theorem elim (alike : scope.Alike R other) :
    (scope = .mission ∧ other = .mission) ∨
    (∃ draft drafted, scope = .single draft ∧ other = .single drafted ∧ draft.Alike R drafted) ∨
    ∃ draft drafted copies, scope = .group draft copies ∧ other = .group drafted copies ∧
      draft.Alike R drafted := by
  cases alike with
  | mission => exact .inl ⟨rfl, rfl⟩
  | single drafts => exact .inr (.inl ⟨_, _, rfl, rfl, drafts⟩)
  | group drafts copies => exact .inr (.inr ⟨_, _, copies, rfl, rfl, drafts⟩)

theorem mapDraft (alike : scope.Alike R other) {change changeOther : BombDraft → BombDraft}
    (keeps : ∀ draft other : BombDraft, draft.Alike R other →
      (change draft).Alike R (changeOther other)) :
    (scope.mapDraft change).Alike R (other.mapDraft changeOther) := by
  cases alike with
  | mission => exact .mission
  | single drafts => exact .single (keeps _ _ drafts)
  | group drafts copies => exact .group (keeps _ _ drafts) copies

end Scope.Alike

/-- Whether a pool that is read next gets resolved: outside bombs, none may stand behind a group. -/
def Progress.acceptsPools {σ : Type} (progress : Progress σ) : Bool :=
  !(progress.scope.isMission && progress.groupsUsed)

namespace Progress.Alike

variable {σ τ : Type} {progress : Progress σ} {other : Progress τ}

theorem reportAll (alike : progress.Alike R other) (problems : List Diagnostic) :
    (progress.reportAll problems).Alike R (other.reportAll problems) :=
  { alike with diagnostics := congrArg (· ++ problems) alike.diagnostics }

theorem report (alike : progress.Alike R other) (problem : Diagnostic) :
    (progress.report problem).Alike R (other.report problem) :=
  alike.reportAll _

theorem reportIf (alike : progress.Alike R other) (condition : Bool) (problem : Diagnostic) :
    (progress.reportIf condition problem).Alike R (other.reportIf condition problem) :=
  alike.reportAll _

theorem openSettings (alike : progress.Alike R other) :
    progress.openSettings = other.openSettings := by
  have scopes := alike.scope
  unfold Progress.openSettings
  generalize progress.scope = scope at scopes
  generalize other.scope = otherScope at scopes
  cases scopes with
  | mission => exact alike.defaults
  | single drafts | group drafts => exact drafts.settings

theorem changeSettings (alike : progress.Alike R other) (change : Settings → Settings) :
    (progress.changeSettings change).Alike R (other.changeSettings change) := by
  unfold Progress.changeSettings
  rw [alike.scope.isMission]
  split
  · exact { alike with defaults := congrArg change alike.defaults }
  · exact { alike with
      scope := alike.scope.mapDraft fun _ _ drafts => drafts.changeSettings change }

theorem assign (alike : progress.Alike R other) (setting : BombSetting) (value : Option Nat) :
    (progress.assign setting value).Alike R (other.assign setting value) := by
  unfold Progress.assign
  rw [alike.openSettings]
  exact ((alike.reportIf _ _).changeSettings _).reportIf _ _

theorem disablePacing (alike : progress.Alike R other) :
    progress.disablePacing.Alike R other.disablePacing := by
  unfold Progress.disablePacing
  rw [alike.scope.isGroup]
  split
  · exact alike.report _
  · exact { alike with pacingEventsEnabled := rfl }

theorem setFactory (alike : progress.Alike R other) (limits : HostLimits) (value : Option String) :
    (progress.setFactory limits value).Alike R (other.setFactory limits value) := by
  unfold Progress.setFactory
  rw [alike.scope.isGroup, alike.factorySpecified]
  split
  · exact alike.report _
  split
  · exact alike.report _
  split
  · exact alike.report _
  · refine Alike.reportIf ?_ _ _
    exact { alike with factorySpecified := rfl, factoryMode := rfl }

theorem setRuleSeed (alike : progress.Alike R other) (value : Option String) :
    (progress.setRuleSeed value).Alike R (other.setRuleSeed value) := by
  unfold Progress.setRuleSeed
  rw [alike.scope.isGroup, alike.ruleSeed]
  split
  · exact alike.report _
  · refine Alike.reportIf ?_ _ _
    exact { alike.reportIf other.ruleSeed.isSome _ with ruleSeed := rfl }

theorem applySetting (alike : progress.Alike R other) (limits : HostLimits) (name : SettingName)
    (value : Option String) :
    (progress.applySetting limits name value).Alike R (other.applySetting limits name value) := by
  cases name with
  | strikes | needyActivationTime | widgets => exact alike.assign _ _
  | frontOnly => exact alike.changeSettings fun settings => { settings with frontOnly := true }
  | noPacing => exact alike.disablePacing
  | factory => exact alike.setFactory limits value
  | ruleSeed => exact alike.setRuleSeed value

section Pools

variable [RandomSource σ] [RandomSource τ] {ctx : Context} {pool : PoolText}

theorem fillPool (alike : progress.Alike R other)
    (resolutions : (pool.resolve ctx progress.source).1.Alike R
      (pool.resolve ctx other.source).1) :
    (progress.fillPool ctx pool).Alike R (other.fillPool ctx pool) := by
  -- the problems of the pool are the same, so only the pools themselves differ
  have counted := alike.reportIf (pool.count.getD 1 = 0) .invalidPoolCount
  have reported := counted.reportAll (pool.resolve ctx progress.source).1.problems
  constructor
  · exact reported.diagnostics.trans (congrArg (_ ++ ·) resolutions.problems)
  · exact reported.defaults
  · exact alike.scope.mapDraft fun _ _ drafts => drafts.add resolutions
  · exact reported.groupsUsed
  · exact reported.bombs
  · exact reported.pacingEventsEnabled
  · exact reported.factorySpecified
  · exact reported.factoryMode
  · exact reported.ruleSeed

theorem addPool (alike : progress.Alike R other)
    (resolutions : progress.acceptsPools = true →
      (pool.resolve ctx progress.source).1.Alike R (pool.resolve ctx other.source).1) :
    (progress.addPool ctx pool).Alike R (other.addPool ctx pool) := by
  have quoted := alike.reportIf pool.unclosedQuote .unclosedQuote
  unfold Progress.addPool
  dsimp only
  rw [quoted.scope.isMission, quoted.groupsUsed]
  split
  next outside =>
    split
    -- the pool is refused in both readings, so it need not be resolved
    · exact quoted.report _
    next unused =>
      have accepted : progress.acceptsPools = true := by
        have groups : progress.groupsUsed = false :=
          alike.groupsUsed.trans (Bool.eq_false_iff.2 unused)
        simp [acceptsPools, groups]
      have opened : BombDraft.Alike R { settings := progress.defaults.inherited }
          { settings := other.defaults.inherited } := .of_settings (by rw [alike.defaults])
      exact fillPool { quoted with groupsUsed := rfl, scope := .single opened } (resolutions accepted)
  next inside =>
    have accepted : progress.acceptsPools = true := by
      have scope : progress.scope.isMission = false :=
        alike.scope.isMission.trans (Bool.eq_false_iff.2 inside)
      simp [acceptsPools, scope]
    exact fillPool quoted (resolutions accepted)

end Pools

theorem openGroup (alike : progress.Alike R other) (limits : HostLimits) (copies : Option Nat) :
    (progress.openGroup limits copies).Alike R (other.openGroup limits copies) := by
  have reported := ((alike.reportIf (!other.scope.isMission) .unexpectedOpen).reportIf
    (!limits.multipleBombs) .multipleBombsUnavailable).reportIf (copies.getD 1 = 0)
    .invalidRepeatCount
  have opened : BombDraft.Alike R { settings := .ofGroup progress.defaults }
      { settings := .ofGroup other.defaults } := .of_settings (by rw [alike.defaults])
  unfold Progress.openGroup
  rw [alike.scope.isMission]
  exact { reported with groupsUsed := rfl, scope := .group opened _ }

section Counts

variable (counts : ∀ pool other, R pool other → pool.count = other.count)
include counts

theorem closeScope (alike : progress.Alike R other) (limits : HostLimits) :
    (progress.closeScope limits).Alike R (other.closeScope limits) := by
  unfold Progress.closeScope
  rcases alike.scope.elim with ⟨here, there⟩ | ⟨draft, drafted, here, there, drafts⟩ |
    ⟨draft, drafted, copies, here, there, drafts⟩ <;> rw [here, there] <;> dsimp only
  · exact alike.report _
  · rw [drafts.problems counts]
    exact { alike.reportAll _ with scope := .mission }
  -- the number of the bomb in its problems is that of the bombs before it
  · rw [drafts.problems counts, alike.bombs.length_eq, alike.defaults]
    exact { alike.reportAll _ with
      scope := .mission
      bombs := List.rel_append alike.bombs (forall₂_replicate copies (drafts.plan counts _)) }

theorem step [RandomSource σ] [RandomSource τ] {ctx : Context} (alike : progress.Alike R other)
    (kind : TokenKind)
    (resolutions : ∀ pool, kind = .pool pool → progress.acceptsPools = true →
      (pool.resolve ctx progress.source).1.Alike R (pool.resolve ctx other.source).1) :
    (progress.step ctx kind).Alike R (other.step ctx kind) := by
  cases kind with
  | time | strikes => exact alike.assign _ _
  | setting name value => exact alike.applySetting ctx.limits name value
  | pool pool => exact alike.addPool (resolutions pool rfl)
  | groupOpen copies => exact alike.openGroup ctx.limits copies
  | groupClose => exact alike.closeScope counts ctx.limits

theorem finish (alike : progress.Alike R other) (limits : HostLimits) :
    (progress.finish limits).Alike R (other.finish limits) := by
  unfold Progress.finish
  rcases alike.scope.elim with ⟨here, there⟩ | ⟨draft, drafted, here, there, drafts⟩ |
    ⟨draft, drafted, copies, here, there, drafts⟩ <;> rw [here, there] <;> dsimp only
  · have empty : progress.bombs.isEmpty = other.bombs.isEmpty := by
      rw [Bool.eq_iff_iff, List.isEmpty_iff_length_eq_zero, List.isEmpty_iff_length_eq_zero,
        alike.bombs.length_eq]
    rw [empty]
    exact alike.reportIf _ _
  · rw [drafts.problems counts, alike.defaults]
    exact { alike.reportAll _ with
      scope := .mission
      bombs := List.rel_append alike.bombs (.cons (drafts.plan counts _) .nil) }
  · exact { alike.report _ with scope := .mission }

end Counts

end Progress.Alike

end BombMission
