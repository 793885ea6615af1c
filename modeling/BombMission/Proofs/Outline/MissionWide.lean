import BombMission.Proofs.Outline.Step

/-!
# Settings of the mission as a whole

Pacing, the factory mode and the rule seed are settings of the mission and not of a bomb. A token
changes them only when it is for one of them and stands outside groups; inside a group it is reported
and the mission stays as it was.

## Main results

* `missionSettings_step_of_none`: no other token changes them.
* `missionSettings_step_of_group`: inside a group no token at all does.
* `missionSettings_step_of_clean`: what they are after any token that goes without a problem.
-/

namespace BombMission

/-- The setting of the mission as a whole that a token is for. -/
def TokenKind.missionSetting? : TokenKind → Option MissionSetting
  | setting .noPacing _ => some .pacing
  | setting .factory _ => some .factory
  | setting .ruleSeed _ => some .ruleSeed
  | _ => none

/-- What was read of the settings of the mission as a whole. -/
structure MissionSettings where
  pacingEventsEnabled : Bool
  factorySpecified : Bool
  factoryMode : Option FactoryMode
  ruleSeed : Option RuleSeed
  deriving DecidableEq, Repr

/-- The settings of the mission after a token for one of them that is accepted. -/
def MissionSettings.after (settings : MissionSettings) : TokenKind → MissionSettings
  | .setting .noPacing _ => { settings with pacingEventsEnabled := false }
  | .setting .factory value =>
    { settings with
      factorySpecified := true
      factoryMode := FactoryMode.ofId? (value.getD "") }
  | .setting .ruleSeed value => { settings with ruleSeed := readRuleSeed value }
  | _ => settings

theorem MissionSettings.after_of_none {settings : MissionSettings} {kind : TokenKind}
    (other : kind.missionSetting? = none) : settings.after kind = settings := by
  cases kind with
  | setting name value =>
    cases name with
    | noPacing | factory | ruleSeed => cases other
    | strikes | needyActivationTime | widgets | frontOnly => rfl
  | time | strikes | pool | groupOpen | groupClose => rfl

theorem MissionSettings.factoryMode_after {settings : MissionSettings} {kind : TokenKind}
    (other : ∀ value, kind ≠ .setting .factory value) :
    (settings.after kind).factoryMode = settings.factoryMode := by
  cases kind with
  | setting name value =>
    cases name with
    | factory => exact absurd rfl (other value)
    | strikes | needyActivationTime | widgets | noPacing | frontOnly | ruleSeed => rfl
  | time | strikes | pool | groupOpen | groupClose => rfl

theorem MissionSettings.ruleSeed_after {settings : MissionSettings} {kind : TokenKind}
    (other : ∀ value, kind ≠ .setting .ruleSeed value) :
    (settings.after kind).ruleSeed = settings.ruleSeed := by
  cases kind with
  | setting name value =>
    cases name with
    | ruleSeed => exact absurd rfl (other value)
    | strikes | needyActivationTime | widgets | noPacing | frontOnly | factory => rfl
  | time | strikes | pool | groupOpen | groupClose => rfl

namespace Progress

variable {σ : Type} {progress : Progress σ}

def missionSettings (progress : Progress σ) : MissionSettings :=
  { pacingEventsEnabled := progress.pacingEventsEnabled
    factorySpecified := progress.factorySpecified
    factoryMode := progress.factoryMode
    ruleSeed := progress.ruleSeed }

/-! ### What is left as it was -/

@[simp] theorem missionSettings_reportAll (problems : List Diagnostic) :
    (progress.reportAll problems).missionSettings = progress.missionSettings := rfl

@[simp] theorem missionSettings_report (problem : Diagnostic) :
    (progress.report problem).missionSettings = progress.missionSettings := rfl

@[simp] theorem missionSettings_reportIf (condition : Bool) (problem : Diagnostic) :
    (progress.reportIf condition problem).missionSettings = progress.missionSettings := rfl

@[simp] theorem missionSettings_changeSettings (change : Settings → Settings) :
    (progress.changeSettings change).missionSettings = progress.missionSettings := by
  by_cases outside : progress.scope.isMission = true
  · simp [changeSettings, outside, missionSettings]
  · simp [changeSettings, outside, missionSettings]

@[simp] theorem missionSettings_assign (setting : BombSetting) (value : Option Nat) :
    (progress.assign setting value).missionSettings = progress.missionSettings := by
  simp [assign]

@[simp] theorem ruleSeed_setFactory (limits : HostLimits) (value : Option String) :
    (progress.setFactory limits value).ruleSeed = progress.ruleSeed := by
  simp only [setFactory]
  split
  · rfl
  · split
    · rfl
    · split <;> rfl

section Pools

variable [RandomSource σ] (ctx : Context) (pool : PoolText)

theorem missionSettings_fillPool :
    (progress.fillPool ctx pool).missionSettings = progress.missionSettings := rfl

theorem missionSettings_addPool :
    (progress.addPool ctx pool).missionSettings = progress.missionSettings := by
  simp only [addPool]
  split
  · split
    · rfl
    · exact missionSettings_fillPool ctx pool
  · exact missionSettings_fillPool ctx pool

end Pools

theorem missionSettings_openGroup (limits : HostLimits) (copies : Option Nat) :
    (progress.openGroup limits copies).missionSettings = progress.missionSettings := rfl

theorem missionSettings_closeScope (limits : HostLimits) :
    (progress.closeScope limits).missionSettings = progress.missionSettings := by
  simp only [closeScope]
  cases progress.scope <;> rfl

theorem missionSettings_finish (limits : HostLimits) :
    (progress.finish limits).missionSettings = progress.missionSettings := by
  simp only [finish]
  cases progress.scope <;> rfl

section Step

variable [RandomSource σ] {ctx : Context} {kind : TokenKind}

theorem missionSettings_step_of_none (other : kind.missionSetting? = none) :
    (progress.step ctx kind).missionSettings = progress.missionSettings := by
  cases kind with
  | time | strikes => apply missionSettings_assign
  | setting name value =>
    cases name with
    | strikes | needyActivationTime | widgets => apply missionSettings_assign
    | frontOnly => apply missionSettings_changeSettings
    | noPacing | factory | ruleSeed => cases other
  | pool pool => exact missionSettings_addPool ctx pool
  | groupOpen copies => exact missionSettings_openGroup ctx.limits copies
  | groupClose => exact missionSettings_closeScope ctx.limits

/-- The settings of the mission are refused inside a group, so nothing there changes them. -/
theorem missionSettings_step_of_group (inside : progress.scope.isGroup = true) :
    (progress.step ctx kind).missionSettings = progress.missionSettings := by
  cases found : kind.missionSetting? with
  | none => exact missionSettings_step_of_none found
  | some setting =>
    cases kind with
    | setting name value =>
      cases name with
      | noPacing => simp [step, applySetting, disablePacing, inside]
      | factory => simp [step, applySetting, setFactory, inside]
      | ruleSeed => simp [step, applySetting, setRuleSeed, inside]
      | strikes | needyActivationTime | widgets | frontOnly => cases found
    | time | strikes | pool | groupOpen | groupClose => cases found

end Step

/-! ### Tokens without problems -/

theorem setFactory_of_clean {limits : HostLimits} {value : Option String}
    (clean : (progress.setFactory limits value).diagnostics = []) :
    progress.scope.isGroup = false ∧ progress.factorySpecified = false ∧ limits.factory = true ∧
      ∃ mode, FactoryMode.ofId? (value.getD "") = some mode ∧
        progress.setFactory limits value =
          { progress with factorySpecified := true, factoryMode := some mode } := by
  by_cases inside : progress.scope.isGroup = true
  · simp [setFactory, inside] at clean
  by_cases specified : progress.factorySpecified = true
  · simp [setFactory, inside, specified] at clean
  by_cases offered : limits.factory = true
  · cases found : FactoryMode.ofId? (value.getD "") with
    | none => simp [setFactory, inside, specified, offered, found] at clean
    | some mode =>
      refine ⟨by simpa using inside, by simpa using specified, offered, mode, rfl, ?_⟩
      simp [setFactory, inside, specified, offered, found, reportIf, reportAll]
  · simp [setFactory, inside, specified, offered] at clean

theorem setRuleSeed_of_clean {value : Option String}
    (clean : (progress.setRuleSeed value).diagnostics = []) :
    progress.scope.isGroup = false ∧ progress.ruleSeed = none ∧
      ∃ seed, readRuleSeed value = some seed ∧
        progress.setRuleSeed value = { progress with ruleSeed := some seed } := by
  by_cases inside : progress.scope.isGroup = true
  · simp [setRuleSeed, inside] at clean
  cases asked : progress.ruleSeed with
  | some earlier => simp [setRuleSeed, inside, asked] at clean
  | none =>
    cases found : readRuleSeed value with
    | none => simp [setRuleSeed, inside, asked, found] at clean
    | some seed =>
      refine ⟨by simpa using inside, rfl, seed, rfl, ?_⟩
      simp [setRuleSeed, inside, asked, found, reportIf, reportAll]

theorem disablePacing_of_clean (clean : progress.disablePacing.diagnostics = []) :
    progress.scope.isGroup = false ∧
      progress.disablePacing = { progress with pacingEventsEnabled := false } := by
  by_cases inside : progress.scope.isGroup = true
  · simp [disablePacing, inside] at clean
  · exact ⟨by simpa using inside, by simp [disablePacing, inside]⟩

theorem missionSettings_step_of_clean [RandomSource σ] {ctx : Context} {kind : TokenKind}
    (clean : (progress.step ctx kind).diagnostics = []) :
    (progress.step ctx kind).missionSettings = progress.missionSettings.after kind := by
  cases found : kind.missionSetting? with
  | none => rw [missionSettings_step_of_none found, MissionSettings.after_of_none found]
  | some setting =>
    cases kind with
    | setting name value =>
      cases name with
      | noPacing => exact congrArg missionSettings (disablePacing_of_clean clean).2
      | factory =>
        obtain ⟨-, -, -, mode, given, changed⟩ := setFactory_of_clean clean
        simp only [MissionSettings.after, given]
        exact congrArg missionSettings changed
      | ruleSeed =>
        obtain ⟨-, -, seed, given, changed⟩ := setRuleSeed_of_clean clean
        simp only [MissionSettings.after, given]
        exact congrArg missionSettings changed
      | strikes | needyActivationTime | widgets | frontOnly => cases found
    | time | strikes | pool | groupOpen | groupClose => cases found

end Progress

end BombMission
