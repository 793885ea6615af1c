import BombMission.Proofs.Outline.Alike
import BombMission.Proofs.Pool.References

/-!
# What is reported of a token

Every token adds some problems behind those that were found before it, whether or not anything was
wrong there. `Progress.problemsOf` is what it adds. Which problems of some sort a whole text has is
then a matter of adding up, token by token.

## Main results

* `Progress.diagnostics_step` and `Progress.diagnostics_finish`: what a token and the end of a text
  add to the problems.
* `Progress.allAbout_problemsOf`: settings, pools and brackets have problems of their own.
* `Progress.addPool_of_accepted` and `Progress.addPool_of_refused`: the two things a pool may do.
  Unlike the lemmas on tokens without problems, these hold of every pool.
-/

namespace BombMission

/-- What a problem is about: a setting, a pool, or a bomb and its brackets. -/
inductive ProblemTopic where
  | setting
  | pool
  | bomb
  deriving DecidableEq, Repr

def TokenKind.topic : TokenKind → ProblemTopic
  | time _ | strikes _ | setting .. => .setting
  | pool _ => .pool
  | groupOpen _ | groupClose => .bomb

def Diagnostic.topic : Diagnostic → ProblemTopic
  | duplicate _ | duplicateForMission _ | insideGroup _ | invalidValue _ | invalidRuleSeed
  | invalidFactoryMode | factoryUnavailable | ruleSeedUnavailable => .setting
  | unclosedQuote | unexpectedPool | invalidPoolCount | unknownModule _ | disabledModule _
  | unknownProfile _ | emptyProfile _ | noValidModules | uniqueShortfall .. => .pool
  | unexpectedOpen | unexpectedClose | unclosedGroup | invalidRepeatCount | noSolvableModules _
  | tooManyModules .. | multipleBombsUnavailable => .bomb

def allAbout (topic : ProblemTopic) (problems : List Diagnostic) : Bool :=
  problems.all fun problem => problem.topic = topic

theorem allAbout_append (topic : ProblemTopic) (first second : List Diagnostic) :
    allAbout topic (first ++ second) = (allAbout topic first && allAbout topic second) :=
  List.all_append

theorem topic_of_allAbout {topic : ProblemTopic} {problems : List Diagnostic}
    (about : allAbout topic problems = true) :
    ∀ problem ∈ problems, problem.topic = topic := by
  simpa [allAbout] using about

theorem topic_of_isAboutReference {problem : Diagnostic}
    (reference : problem.isAboutReference = true) : problem.topic = .pool := by
  revert reference
  cases problem <;> simp [Diagnostic.isAboutReference, Diagnostic.topic]

theorem allAbout_problems_resolvePool {σ : Type} [RandomSource σ] (ctx : Context) (body : String)
    (count : Nat) (unique : Bool) (source : σ) :
    allAbout .pool (resolvePool ctx body count unique source).1.problems = true := by
  have reference : allAbout .pool (Reference.read ctx body).2 = true := by
    simp only [allAbout, List.all_eq_true, decide_eq_true_eq]
    intro problem member
    exact topic_of_isAboutReference (isAboutReference_of_mem_read member)
  have draw : ∀ found, allAbout .pool (shortfall count found) = true := by
    intro found
    simp only [shortfall]
    split
    · rfl
    · split <;> rfl
  cases unique with
  | false => exact reference
  | true => rw [problems_resolvePool_unique, allAbout_append, reference, draw, Bool.true_and]

/-- The problems with the seed of a mission, given whether it has one already. -/
def ruleSeedProblems (again : Bool) (value : Option String) : List Diagnostic :=
  (if again then [.duplicateForMission .ruleSeed] else []) ++
    if (readRuleSeed value).isNone then [.invalidRuleSeed] else []

/-- The problems with the factory mode of a mission, given whether it has one already. -/
def factoryProblems (limits : HostLimits) (again : Bool) (value : Option String) :
    List Diagnostic :=
  if again then [.duplicateForMission .factory]
  else if !limits.factory then [.factoryUnavailable]
  else if (FactoryMode.ofId? (value.getD "")).isNone then [.invalidFactoryMode] else []

theorem mem_factoryProblems {limits : HostLimits} {again : Bool} {value : Option String}
    {problem : Diagnostic} (member : problem ∈ factoryProblems limits again value) :
    problem = .duplicateForMission .factory ∨ problem = .factoryUnavailable ∨
      problem = .invalidFactoryMode := by
  unfold factoryProblems at member
  -- a second mode, then a host without the factory, then a bad mode
  split at member
  · exact .inl (List.mem_singleton.1 member)
  · split at member
    · exact .inr (.inl (List.mem_singleton.1 member))
    · split at member
      · exact .inr (.inr (List.mem_singleton.1 member))
      · cases member

theorem mem_ruleSeedProblems {again : Bool} {value : Option String} {problem : Diagnostic}
    (member : problem ∈ ruleSeedProblems again value) :
    problem = .duplicateForMission .ruleSeed ∨ problem = .invalidRuleSeed := by
  rcases List.mem_append.1 member with repeated | bad
  · split at repeated
    · exact .inl (List.mem_singleton.1 repeated)
    · cases repeated
  · split at bad
    · exact .inr (List.mem_singleton.1 bad)
    · cases bad

namespace Progress

variable {σ : Type} {progress : Progress σ}

section Problems

variable (progress)

def assignmentProblems (setting : BombSetting) (value : Option Nat) : List Diagnostic :=
  (if (progress.openSettings.slot setting).specified then [.duplicate setting] else []) ++
    if value.isNone then [.invalidValue setting] else []

def settingProblems (limits : HostLimits) (name : SettingName) (value : Option String) :
    List Diagnostic :=
  match name with
  | .strikes => progress.assignmentProblems .strikes ((settingNumber value).bind positive?)
  | .needyActivationTime => progress.assignmentProblems .needyActivationTime (settingNumber value)
  | .widgets => progress.assignmentProblems .widgets (settingNumber value)
  | .frontOnly => []
  | .noPacing => if progress.scope.isGroup then [.insideGroup .pacing] else []
  | .factory =>
    if progress.scope.isGroup then [.insideGroup .factory]
    else factoryProblems limits progress.factorySpecified value
  | .ruleSeed =>
    if progress.scope.isGroup then [.insideGroup .ruleSeed]
    else ruleSeedProblems progress.ruleSeed.isSome value

def poolProblems [RandomSource σ] (ctx : Context) (pool : PoolText) : List Diagnostic :=
  (if pool.unclosedQuote then [.unclosedQuote] else []) ++
    if progress.acceptsPools then
      (if pool.count.getD 1 = 0 then [.invalidPoolCount] else []) ++
        (pool.resolve ctx progress.source).1.problems
    else [.unexpectedPool]

def openingProblems (limits : HostLimits) (copies : Option Nat) : List Diagnostic :=
  (if !progress.scope.isMission then [.unexpectedOpen] else []) ++
    ((if !limits.multipleBombs then [.multipleBombsUnavailable] else []) ++
      if copies.getD 1 = 0 then [.invalidRepeatCount] else [])

def closingProblems (limits : HostLimits) : List Diagnostic :=
  match progress.scope with
  | .mission => [.unexpectedClose]
  | .single draft => draft.problems limits none
  | .group draft _ => draft.problems limits (some (progress.bombs.length + 1))

/-- What is reported of a token. -/
def problemsOf [RandomSource σ] (ctx : Context) : TokenKind → List Diagnostic
  | .time seconds => progress.assignmentProblems .time (timeLimit? seconds)
  | .strikes limit => progress.assignmentProblems .strikes (positive? limit)
  | .setting name value => progress.settingProblems ctx.limits name value
  | .pool pool => progress.poolProblems ctx pool
  | .groupOpen copies => progress.openingProblems ctx.limits copies
  | .groupClose => progress.closingProblems ctx.limits

/-- What is reported of the end of a text. -/
def endProblems (limits : HostLimits) : List Diagnostic :=
  match progress.scope with
  | .single draft => draft.problems limits none
  | .group .. => [.unclosedGroup]
  | .mission => if progress.bombs.isEmpty then [.noSolvableModules none] else []

end Problems

/-! ### Pools -/

section Pools

variable [RandomSource σ] {ctx : Context} {pool : PoolText}

/-- A pool that is accepted fills the open bomb, or one that it opens. -/
theorem addPool_of_accepted (accepted : progress.acceptsPools = true) :
    progress.addPool ctx pool =
      { progress with
        source := (pool.resolve ctx progress.source).2
        diagnostics := progress.diagnostics ++ progress.poolProblems ctx pool
        scope := progress.poolScope.mapDraft fun draft =>
          draft.add (pool.resolve ctx progress.source).1 } := by
  unfold poolProblems
  rw [if_pos accepted]
  by_cases outside : progress.scope.isMission = true
  -- the first pool outside groups, since none was refused
  · have unused : progress.groupsUsed = false := by
      simpa [acceptsPools, outside] using accepted
    simp [addPool, fillPool, reportIf, reportAll, poolScope, PoolText.resolve, outside, unused]
  · simp [addPool, fillPool, reportIf, reportAll, poolScope, PoolText.resolve, outside]

theorem addPool_of_refused (refused : progress.acceptsPools = false) :
    progress.addPool ctx pool =
      { progress with diagnostics := progress.diagnostics ++ progress.poolProblems ctx pool } := by
  have outside : progress.scope.isMission = true ∧ progress.groupsUsed = true := by
    simpa [acceptsPools] using refused
  simp [addPool, poolProblems, reportIf, report, reportAll, refused, outside]

end Pools

/-! ### Problems in order -/

theorem diagnostics_assign (setting : BombSetting) (value : Option Nat) :
    (progress.assign setting value).diagnostics =
      progress.diagnostics ++ progress.assignmentProblems setting value := by
  simp [assign, assignmentProblems]

theorem diagnostics_setFactory (limits : HostLimits) (value : Option String) :
    (progress.setFactory limits value).diagnostics = progress.diagnostics ++
      if progress.scope.isGroup then [.insideGroup .factory]
      else factoryProblems limits progress.factorySpecified value := by
  unfold setFactory factoryProblems
  split
  · rfl
  · split
    · rfl
    · split <;> rfl

theorem diagnostics_setRuleSeed (value : Option String) :
    (progress.setRuleSeed value).diagnostics = progress.diagnostics ++
      if progress.scope.isGroup then [.insideGroup .ruleSeed]
      else ruleSeedProblems progress.ruleSeed.isSome value := by
  unfold setRuleSeed ruleSeedProblems
  split <;> simp

theorem diagnostics_applySetting (limits : HostLimits) (name : SettingName)
    (value : Option String) :
    (progress.applySetting limits name value).diagnostics =
      progress.diagnostics ++ progress.settingProblems limits name value := by
  cases name with
  | strikes | needyActivationTime | widgets => exact diagnostics_assign _ _
  | frontOnly => simp [applySetting, settingProblems]
  | noPacing =>
    simp only [applySetting, settingProblems, disablePacing]
    split <;> simp
  | factory => exact diagnostics_setFactory limits value
  | ruleSeed => exact diagnostics_setRuleSeed value

/-- A token adds its problems behind those of the tokens before it. -/
theorem diagnostics_step [RandomSource σ] (ctx : Context) (kind : TokenKind) :
    (progress.step ctx kind).diagnostics = progress.diagnostics ++ progress.problemsOf ctx kind := by
  cases kind with
  | time seconds => exact diagnostics_assign _ _
  | strikes limit => exact diagnostics_assign _ _
  | setting name value => exact diagnostics_applySetting ctx.limits name value
  | pool pool =>
    change (progress.addPool ctx pool).diagnostics = _
    cases accepts : progress.acceptsPools with
    | true => exact congrArg Progress.diagnostics (addPool_of_accepted accepts)
    | false => exact congrArg Progress.diagnostics (addPool_of_refused accepts)
  | groupOpen copies => simp [step, openGroup, problemsOf, openingProblems]
  | groupClose =>
    unfold step closeScope problemsOf closingProblems
    cases progress.scope <;> rfl

theorem diagnostics_finish (limits : HostLimits) :
    (progress.finish limits).diagnostics = progress.diagnostics ++ progress.endProblems limits := by
  unfold finish endProblems
  cases progress.scope <;> rfl

/-! ### Topics -/

theorem allAbout_assignmentProblems (setting : BombSetting) (value : Option Nat) :
    allAbout .setting (progress.assignmentProblems setting value) = true := by
  simp only [assignmentProblems, allAbout_append]
  split <;> split <;> rfl

theorem allAbout_settingProblems (limits : HostLimits) (name : SettingName)
    (value : Option String) :
    allAbout .setting (progress.settingProblems limits name value) = true := by
  cases name with
  | strikes | needyActivationTime | widgets => apply allAbout_assignmentProblems
  | frontOnly => rfl
  | noPacing =>
    simp only [settingProblems]
    split <;> rfl
  | factory =>
    simp only [settingProblems]
    split
    · rfl
    · simp only [allAbout, List.all_eq_true, decide_eq_true_eq]
      intro problem member
      rcases mem_factoryProblems member with rfl | rfl | rfl <;> rfl
  | ruleSeed =>
    simp only [settingProblems]
    split
    · rfl
    · simp only [allAbout, List.all_eq_true, decide_eq_true_eq]
      intro problem member
      rcases mem_ruleSeedProblems member with rfl | rfl <;> rfl

theorem allAbout_draftProblems (draft : BombDraft) (limits : HostLimits) (number : Option Nat) :
    allAbout .bomb (draft.problems limits number) = true := by
  simp only [BombDraft.problems, allAbout_append]
  split <;> split <;> rfl

theorem allAbout_closingProblems (limits : HostLimits) :
    allAbout .bomb (progress.closingProblems limits) = true := by
  simp only [closingProblems]
  cases progress.scope with
  | mission => rfl
  | single draft => exact allAbout_draftProblems draft limits none
  | group draft copies => exact allAbout_draftProblems draft limits _

/-- The end of a text is reported as the end of a bomb. -/
theorem allAbout_endProblems (limits : HostLimits) :
    allAbout .bomb (progress.endProblems limits) = true := by
  simp only [endProblems]
  cases progress.scope with
  | mission =>
    dsimp only
    split <;> rfl
  | single draft => exact allAbout_draftProblems draft limits none
  | group => rfl

section Step

variable [RandomSource σ] {ctx : Context}

theorem allAbout_poolProblems (pool : PoolText) :
    allAbout .pool (progress.poolProblems ctx pool) = true := by
  have resolved : allAbout .pool (pool.resolve ctx progress.source).1.problems = true :=
    allAbout_problems_resolvePool ctx pool.body _ pool.unique progress.source
  simp only [poolProblems, allAbout_append, Bool.and_eq_true]
  refine ⟨?_, ?_⟩
  · split <;> rfl
  · split
    · rw [allAbout_append, resolved]
      split <;> rfl
    · rfl

/-- What is reported of a token tells what sort of token it was. -/
theorem allAbout_problemsOf (progress : Progress σ) (ctx : Context) (kind : TokenKind) :
    allAbout kind.topic (progress.problemsOf ctx kind) = true := by
  cases kind with
  | time | strikes => apply allAbout_assignmentProblems
  | setting name value => exact allAbout_settingProblems ctx.limits name value
  | pool pool => exact allAbout_poolProblems pool
  | groupOpen copies =>
    simp only [problemsOf, openingProblems, allAbout_append, TokenKind.topic, Bool.and_eq_true]
    refine ⟨?_, ?_, ?_⟩ <;> split <;> rfl
  | groupClose => exact allAbout_closingProblems ctx.limits

end Step

end Progress

end BombMission
