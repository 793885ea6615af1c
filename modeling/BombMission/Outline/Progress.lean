import BombMission.Outline.Draft

/-!
# Reading tokens

`Progress` is what is known after some tokens of a mission: the open scope, the finished bombs, the
settings of the mission, the problems so far and the random source. `Progress.step` takes in one
more token:

- a setting goes to the open bomb, or to all bombs when none is open;
- a pool goes to the open bomb; the first one outside groups opens a bomb of its own, as long as
  there was no group;
- an opening bracket opens a group, and drops the bomb that is still open;
- a closing bracket ends the open bomb: a group makes copies of it, a bomb outside groups is
  checked but makes none.

No problem stops the reading: it is noted, and the token is used as far as it can be.
-/

namespace BombMission

/-- What is known after some tokens. -/
structure Progress (σ : Type) where
  source : σ
  diagnostics : List Diagnostic := []
  defaults : Settings := {}
  scope : Scope := .mission
  /-- Whether there was an opening bracket; pools outside groups are not allowed after one. -/
  groupsUsed : Bool := false
  bombs : List PlannedBomb := []
  pacingEventsEnabled : Bool := true
  factorySpecified : Bool := false
  factoryMode : Option FactoryMode := none
  ruleSeed : Option RuleSeed := none

namespace Progress

variable {σ : Type}

def reportAll (progress : Progress σ) (problems : List Diagnostic) : Progress σ :=
  { progress with diagnostics := progress.diagnostics ++ problems }

def report (progress : Progress σ) (problem : Diagnostic) : Progress σ :=
  progress.reportAll [problem]

def reportIf (progress : Progress σ) (condition : Bool) (problem : Diagnostic) : Progress σ :=
  progress.reportAll (if condition then [problem] else [])

/-- The settings that a setting would change: those of the open bomb, or those for all bombs. -/
def openSettings (progress : Progress σ) : Settings :=
  match progress.scope.draft? with
  | some draft => draft.settings
  | none => progress.defaults

/-- Changes the settings of the open bomb, or those for all bombs. -/
def changeSettings (progress : Progress σ) (change : Settings → Settings) : Progress σ :=
  if progress.scope.isMission then { progress with defaults := change progress.defaults }
  else
    { progress with
      scope := progress.scope.mapDraft fun draft =>
        { draft with settings := change draft.settings } }

/-- Takes in a setting of a bomb. No value stands for a bad one. -/
def assign (progress : Progress σ) (setting : BombSetting) (value : Option Nat) : Progress σ :=
  let slot := progress.openSettings.slot setting
  let progress := progress.reportIf slot.specified (.duplicate setting)
  let progress := progress.changeSettings fun settings =>
    settings.setSlot setting (slot.assign value)
  progress.reportIf value.isNone (.invalidValue setting)

def disablePacing (progress : Progress σ) : Progress σ :=
  if progress.scope.isGroup then progress.report (.insideGroup .pacing)
  else { progress with pacingEventsEnabled := false }

def setFactory (progress : Progress σ) (limits : HostLimits) (value : Option String) :
    Progress σ :=
  if progress.scope.isGroup then progress.report (.insideGroup .factory)
  else if progress.factorySpecified then progress.report (.duplicateForMission .factory)
  else if !limits.factory then progress.report .factoryUnavailable
  else
    let mode := FactoryMode.ofId? (value.getD "")
    { progress with factorySpecified := true, factoryMode := mode }.reportIf mode.isNone
      .invalidFactoryMode

/-- Takes in the setting for the rule seed. A bad value asks for a random seed. -/
def setRuleSeed (progress : Progress σ) (value : Option String) : Progress σ :=
  if progress.scope.isGroup then progress.report (.insideGroup .ruleSeed)
  else
    let progress := progress.reportIf progress.ruleSeed.isSome (.duplicateForMission .ruleSeed)
    let seed := readRuleSeed value
    { progress with ruleSeed := some (seed.getD .random) }.reportIf seed.isNone .invalidRuleSeed

def applySetting (progress : Progress σ) (limits : HostLimits) (name : SettingName)
    (value : Option String) : Progress σ :=
  match name with
  | .strikes => progress.assign .strikes ((settingNumber value).bind positive?)
  | .needyActivationTime => progress.assign .needyActivationTime (settingNumber value)
  | .widgets => progress.assign .widgets (settingNumber value)
  | .frontOnly => progress.changeSettings fun settings => { settings with frontOnly := true }
  | .noPacing => progress.disablePacing
  | .factory => progress.setFactory limits value
  | .ruleSeed => progress.setRuleSeed value

def fillPool [RandomSource σ] (progress : Progress σ) (ctx : Context) (pool : PoolText) :
    Progress σ :=
  -- a pool without places is reported, and still resolved so that its ids are checked
  let count := pool.count.getD 1
  let progress := progress.reportIf (count = 0) .invalidPoolCount
  let (resolution, source) := resolvePool ctx pool.body count pool.unique progress.source
  { progress.reportAll resolution.problems with
    source
    scope := progress.scope.mapDraft fun draft => draft.add resolution }

def addPool [RandomSource σ] (progress : Progress σ) (ctx : Context) (pool : PoolText) :
    Progress σ :=
  let progress := progress.reportIf pool.unclosedQuote .unclosedQuote
  if progress.scope.isMission then
    if progress.groupsUsed then progress.report .unexpectedPool
    else
      { progress with scope := .single { settings := progress.defaults.inherited } }.fillPool ctx
        pool
  else progress.fillPool ctx pool

def openGroup (progress : Progress σ) (limits : HostLimits) (copies : Option Nat) : Progress σ :=
  let copies := copies.getD 1
  let progress := progress.reportIf (!progress.scope.isMission) .unexpectedOpen
  let progress := progress.reportIf (!limits.multipleBombs) .multipleBombsUnavailable
  let progress := progress.reportIf (copies = 0) .invalidRepeatCount
  -- a bomb that is still open is dropped
  { progress with
    groupsUsed := true
    scope := .group { settings := .ofGroup progress.defaults } copies }

def closeScope (progress : Progress σ) (limits : HostLimits) : Progress σ :=
  match progress.scope with
  | .mission => progress.report .unexpectedClose
  | .single draft =>
    -- the bomb is checked, but it is lost
    { progress.reportAll (draft.problems limits none) with scope := .mission }
  | .group draft copies =>
    -- bombs are counted, not groups: a group of two moves the next number by two
    let number := progress.bombs.length + 1
    { progress.reportAll (draft.problems limits (some number)) with
      scope := .mission
      bombs := progress.bombs ++ List.replicate copies (draft.plan progress.defaults) }

def step [RandomSource σ] (ctx : Context) (progress : Progress σ) : TokenKind → Progress σ
  | .time seconds => progress.assign .time (timeLimit? seconds)
  | .strikes limit => progress.assign .strikes (positive? limit)
  | .setting name value => progress.applySetting ctx.limits name value
  | .pool pool => progress.addPool ctx pool
  | .groupOpen copies => progress.openGroup ctx.limits copies
  | .groupClose => progress.closeScope ctx.limits

def run [RandomSource σ] (ctx : Context) (progress : Progress σ) (kinds : List TokenKind) :
    Progress σ :=
  kinds.foldl (step ctx) progress

/-- Takes in the end of the text: a bomb outside groups is finished, an open group is not. -/
def finish (progress : Progress σ) (limits : HostLimits) : Progress σ :=
  match progress.scope with
  | .single draft =>
    { progress.reportAll (draft.problems limits none) with
      scope := .mission
      bombs := progress.bombs ++ [draft.plan progress.defaults] }
  | .group .. => { progress.report .unclosedGroup with scope := .mission }
  | .mission => progress.reportIf progress.bombs.isEmpty (.noSolvableModules none)

@[simp] theorem run_nil [RandomSource σ] (ctx : Context) (progress : Progress σ) :
    progress.run ctx [] = progress := rfl

@[simp] theorem run_cons [RandomSource σ] (ctx : Context) (progress : Progress σ)
    (kind : TokenKind) (kinds : List TokenKind) :
    progress.run ctx (kind :: kinds) = (progress.step ctx kind).run ctx kinds := rfl

theorem run_append [RandomSource σ] (ctx : Context) (progress : Progress σ)
    (first second : List TokenKind) :
    progress.run ctx (first ++ second) = (progress.run ctx first).run ctx second := by
  simp [run, List.foldl_append]

end Progress

end BombMission
