import BombMission.Proofs.Outline.MissionWide
import BombMission.Proofs.Pool.Resolution
import BombMission.Random.SplitMix

/-!
# Groups are read one by one

A closed group leaves nothing behind but its bombs and its problems. Whatever is read after it comes to
the same as in a text of its own; only the numbers that problems give to bombs count on.

## Main results

* `Progress.step_behind`: bombs and problems in front of a reading change nothing in what a token does
  to it, but for these numbers.
* `Progress.run_groups`: groups keep everything that is not a bomb or a problem.
* `Progress.length_bombs_run_groups`: groups make as many bombs as they ask for.
* `ofTokens_groups_append`: the outline of two sequences of groups is put together from the outlines of
  both, where the second starts from the source that the first leaves.

## Proof strategy

`Progress.behind` puts bombs and problems in front of a reading. It commutes with every operation, so a
reading of the second groups that goes on after the first is one from the start with the outcome of the
first in front.
-/

namespace BombMission

/-! ### Numbers of bombs -/

/-- A problem with so many bombs in front of those that it may be about. -/
def Diagnostic.renumber (earlier : Nat) : Diagnostic → Diagnostic
  | noSolvableModules (some number) => noSolvableModules (some (number + earlier))
  | tooManyModules count limit (some number) =>
    tooManyModules count limit (some (number + earlier))
  | problem => problem

/-- The problem does not speak of a bomb by its number. -/
def Diagnostic.Unnumbered (problem : Diagnostic) : Prop :=
  ∀ earlier, problem.renumber earlier = problem

theorem map_renumber_eq_self {problems : List Diagnostic}
    (unnumbered : ∀ problem ∈ problems, problem.Unnumbered) (earlier : Nat) :
    problems.map (Diagnostic.renumber earlier) = problems := by
  rw [List.map_congr_left fun problem member => unnumbered problem member earlier, List.map_id']

theorem BombDraft.problems_renumber (draft : BombDraft) (limits : HostLimits) (number : Option Nat)
    (earlier : Nat) :
    (draft.problems limits number).map (Diagnostic.renumber earlier) =
      draft.problems limits (number.map (· + earlier)) := by
  by_cases solvable : draft.hasSolvable = true <;>
    by_cases crowded : limits.maxModules < draft.places <;>
      cases number <;> simp [problems, solvable, crowded, Diagnostic.renumber]

/-- What is wrong with the body of a pool does not depend on the bomb it stands on. -/
theorem Reference.unnumbered_of_mem_read {ctx : Context} {body : String} {problem : Diagnostic}
    (member : problem ∈ (Reference.read ctx body).2) : problem.Unnumbered := by
  have profile : ∀ kind name, problem ∈ (readProfile ctx kind name).2 → problem.Unnumbered := by
    intro kind name reported
    simp only [readProfile] at reported
    split at reported
    · rw [List.mem_singleton.1 reported]
      exact fun _ => rfl
    · split at reported
      · rw [List.mem_singleton.1 reported]
        exact fun _ => rfl
      · cases reported
  simp only [read] at member
  split at member
  · cases member
  split at member
  · exact profile _ _ member
  split at member
  · exact profile _ _ member
  · obtain ⟨id, -, reported⟩ := List.mem_filterMap.1 member
    simp only [idProblem] at reported
    split at reported
    · cases reported
    · exact Option.some.inj reported ▸ fun _ => rfl
    · exact Option.some.inj reported ▸ fun _ => rfl

theorem unnumbered_of_mem_shortfall {count found : Nat} {problem : Diagnostic}
    (member : problem ∈ shortfall count found) : problem.Unnumbered := by
  simp only [shortfall] at member
  split at member
  · rw [List.mem_singleton.1 member]
    exact fun _ => rfl
  · split at member
    · rw [List.mem_singleton.1 member]
      exact fun _ => rfl
    · cases member

theorem unnumbered_of_mem_resolve {σ : Type} [RandomSource σ] {ctx : Context} {pool : PoolText}
    {source : σ} {problem : Diagnostic}
    (member : problem ∈ (pool.resolve ctx source).1.problems) : problem.Unnumbered := by
  simp only [PoolText.resolve] at member
  cases found : pool.unique with
  | false =>
    rw [found] at member
    exact Reference.unnumbered_of_mem_read member
  | true =>
    rw [found, problems_resolvePool_unique] at member
    rcases List.mem_append.1 member with reference | draw
    · exact Reference.unnumbered_of_mem_read reference
    · exact unnumbered_of_mem_shortfall draw

namespace Progress

variable {σ : Type} {progress : Progress σ} {plans : List PlannedBomb}
  {problems : List Diagnostic}

/-- The progress with bombs and problems in front of its own. -/
def behind (progress : Progress σ) (plans : List PlannedBomb) (problems : List Diagnostic) :
    Progress σ :=
  { progress with
    diagnostics := problems ++ progress.diagnostics.map (Diagnostic.renumber plans.length)
    bombs := plans ++ progress.bombs }

@[simp] theorem scope_behind : (progress.behind plans problems).scope = progress.scope := rfl

@[simp] theorem groupsUsed_behind :
    (progress.behind plans problems).groupsUsed = progress.groupsUsed := rfl

@[simp] theorem factorySpecified_behind :
    (progress.behind plans problems).factorySpecified = progress.factorySpecified := rfl

@[simp] theorem ruleSeed_behind :
    (progress.behind plans problems).ruleSeed = progress.ruleSeed := rfl

/-! ### Operations -/

theorem reportIf_behind (condition : Bool) {problem : Diagnostic} (unnumbered : problem.Unnumbered) :
    (progress.behind plans problems).reportIf condition problem =
      (progress.reportIf condition problem).behind plans problems := by
  cases condition <;> simp [reportIf, reportAll, behind, unnumbered plans.length]

theorem report_behind {problem : Diagnostic} (unnumbered : problem.Unnumbered) :
    (progress.behind plans problems).report problem =
      (progress.report problem).behind plans problems :=
  reportIf_behind true unnumbered

theorem changeSettings_behind (change : Settings → Settings) :
    (progress.behind plans problems).changeSettings change =
      (progress.changeSettings change).behind plans problems := by
  by_cases outside : progress.scope.isMission = true <;> simp [changeSettings, behind, outside]

theorem assign_behind (setting : BombSetting) (value : Option Nat) :
    (progress.behind plans problems).assign setting value =
      (progress.assign setting value).behind plans problems := by
  have duplicate : (Diagnostic.duplicate setting).Unnumbered := fun _ => rfl
  have invalid : (Diagnostic.invalidValue setting).Unnumbered := fun _ => rfl
  simp only [assign, reportIf_behind _ duplicate, reportIf_behind _ invalid, changeSettings_behind]
  rfl

theorem disablePacing_behind :
    (progress.behind plans problems).disablePacing =
      progress.disablePacing.behind plans problems := by
  have refused : (Diagnostic.insideGroup .pacing).Unnumbered := fun _ => rfl
  by_cases inside : progress.scope.isGroup = true
  · simp [disablePacing, inside, report_behind refused]
  · simp [disablePacing, inside, behind]

theorem setFactory_behind (limits : HostLimits) (value : Option String) :
    (progress.behind plans problems).setFactory limits value =
      (progress.setFactory limits value).behind plans problems := by
  have refused : (Diagnostic.insideGroup .factory).Unnumbered := fun _ => rfl
  have duplicate : (Diagnostic.duplicateForMission .factory).Unnumbered := fun _ => rfl
  have unavailable : Diagnostic.factoryUnavailable.Unnumbered := fun _ => rfl
  have invalid : Diagnostic.invalidFactoryMode.Unnumbered := fun _ => rfl
  simp only [setFactory, scope_behind, factorySpecified_behind]
  by_cases inside : progress.scope.isGroup = true
  · simp only [if_pos inside, report_behind refused]
  by_cases given : progress.factorySpecified = true
  · simp only [if_neg inside, if_pos given, report_behind duplicate]
  by_cases lacking : (!limits.factory) = true
  · simp only [if_neg inside, if_neg given, if_pos lacking, report_behind unavailable]
  · simp only [if_neg inside, if_neg given, if_neg lacking]
    -- the mode is set on what stands behind, which the record update does not say by itself
    generalize FactoryMode.ofId? (value.getD "") = mode
    change (behind { progress with factorySpecified := true, factoryMode := mode } plans
      problems).reportIf mode.isNone .invalidFactoryMode = _
    apply reportIf_behind _ invalid

theorem setRuleSeed_behind (value : Option String) :
    (progress.behind plans problems).setRuleSeed value =
      (progress.setRuleSeed value).behind plans problems := by
  have refused : (Diagnostic.insideGroup .ruleSeed).Unnumbered := fun _ => rfl
  have duplicate : (Diagnostic.duplicateForMission .ruleSeed).Unnumbered := fun _ => rfl
  have invalid : Diagnostic.invalidRuleSeed.Unnumbered := fun _ => rfl
  simp only [setRuleSeed, scope_behind, ruleSeed_behind, reportIf_behind _ duplicate]
  by_cases inside : progress.scope.isGroup = true
  · simp only [if_pos inside, report_behind refused]
  · simp only [if_neg inside]
    generalize progress.reportIf progress.ruleSeed.isSome (.duplicateForMission .ruleSeed) = reported
    generalize readRuleSeed value = seed
    change (behind { reported with ruleSeed := some (seed.getD .random) } plans problems).reportIf
      seed.isNone .invalidRuleSeed = _
    apply reportIf_behind _ invalid

theorem applySetting_behind (limits : HostLimits) (name : SettingName) (value : Option String) :
    (progress.behind plans problems).applySetting limits name value =
      (progress.applySetting limits name value).behind plans problems := by
  cases name with
  | strikes | needyActivationTime | widgets => apply assign_behind
  | frontOnly =>
    simp only [applySetting]
    apply changeSettings_behind
  | noPacing => exact disablePacing_behind
  | factory => exact setFactory_behind limits value
  | ruleSeed => exact setRuleSeed_behind value

section Pools

variable [RandomSource σ] (ctx : Context) (pool : PoolText)

theorem fillPool_behind :
    (progress.behind plans problems).fillPool ctx pool =
      (progress.fillPool ctx pool).behind plans problems := by
  have uncounted : Diagnostic.invalidPoolCount.Unnumbered := fun _ => rfl
  have found : (pool.resolve ctx progress.source).1.problems.map
      (Diagnostic.renumber plans.length) = (pool.resolve ctx progress.source).1.problems :=
    map_renumber_eq_self (fun _ member => unnumbered_of_mem_resolve member) _
  simp only [PoolText.resolve] at found
  simp only [fillPool, reportIf_behind _ uncounted]
  simp [reportIf, reportAll, behind, found]

theorem addPool_behind :
    (progress.behind plans problems).addPool ctx pool =
      (progress.addPool ctx pool).behind plans problems := by
  have quote : Diagnostic.unclosedQuote.Unnumbered := fun _ => rfl
  have unexpected : Diagnostic.unexpectedPool.Unnumbered := fun _ => rfl
  simp only [addPool, reportIf_behind _ quote, scope_behind, groupsUsed_behind]
  generalize progress.reportIf pool.unclosedQuote .unclosedQuote = reported
  by_cases outside : reported.scope.isMission = true
  · by_cases used : reported.groupsUsed = true
    · simp only [if_pos outside, if_pos used, report_behind unexpected]
    · simp only [if_pos outside, if_neg used]
      change (behind { reported with scope := .single { settings := reported.defaults.inherited } }
        plans problems).fillPool ctx pool = _
      apply fillPool_behind
  · simp only [if_neg outside]
    apply fillPool_behind

end Pools

theorem openGroup_behind (limits : HostLimits) (copies : Option Nat) :
    (progress.behind plans problems).openGroup limits copies =
      (progress.openGroup limits copies).behind plans problems := by
  have opened : Diagnostic.unexpectedOpen.Unnumbered := fun _ => rfl
  have unavailable : Diagnostic.multipleBombsUnavailable.Unnumbered := fun _ => rfl
  have uncounted : Diagnostic.invalidRepeatCount.Unnumbered := fun _ => rfl
  simp only [openGroup, scope_behind, reportIf_behind _ opened, reportIf_behind _ unavailable,
    reportIf_behind _ uncounted]
  rfl

theorem closeScope_behind (limits : HostLimits) :
    (progress.behind plans problems).closeScope limits =
      (progress.closeScope limits).behind plans problems := by
  cases found : progress.scope with
  | mission =>
    have unexpected : Diagnostic.unexpectedClose.Unnumbered := fun _ => rfl
    simp only [closeScope, scope_behind, found, report_behind unexpected]
  | single draft =>
    have unnumbered := draft.problems_renumber limits none plans.length
    simp only [closeScope, scope_behind, found]
    simp [reportAll, behind, unnumbered]
  | group draft copies =>
    -- a bomb is numbered by the bombs before it, and renumbering adds those in front of all
    have renumbered := draft.problems_renumber limits (some (progress.bombs.length + 1))
      plans.length
    have counted : plans.length + progress.bombs.length + 1 =
        progress.bombs.length + 1 + plans.length := by omega
    simp only [closeScope, scope_behind, found]
    simp [reportAll, behind, renumbered, counted]

section Step

variable [RandomSource σ] {ctx : Context}

/-- Bombs and problems in front of a reading change nothing in what a token does to it. -/
theorem step_behind (kind : TokenKind) :
    (progress.behind plans problems).step ctx kind =
      (progress.step ctx kind).behind plans problems := by
  cases kind with
  | time | strikes => apply assign_behind
  | setting name value => exact applySetting_behind ctx.limits name value
  | pool pool => exact addPool_behind ctx pool
  | groupOpen copies => exact openGroup_behind ctx.limits copies
  | groupClose => exact closeScope_behind ctx.limits

theorem run_behind (kinds : List TokenKind) :
    (progress.behind plans problems).run ctx kinds =
      (progress.run ctx kinds).behind plans problems := by
  induction kinds generalizing progress with
  | nil => rfl
  | cons kind kinds ih => rw [run_cons, run_cons, step_behind, ih]

end Step

end Progress

/-! ### Groups -/

/-- Whether a token is a bracket of a group. -/
def TokenKind.isBracket : TokenKind → Bool
  | groupOpen _ | groupClose => true
  | time _ | strikes _ | setting .. | pool _ => false

/-- A group in its brackets. Nothing but brackets is kept out of its body, so it may be full of
problems. -/
structure TokenGroup where
  copies : Option Nat
  body : List TokenKind
  bracketless : ∀ kind ∈ body, kind.isBracket = false

namespace TokenGroup

def kinds (group : TokenGroup) : List TokenKind :=
  .groupOpen group.copies :: (group.body ++ [.groupClose])

/-- How many bombs the group makes. -/
def repeats (group : TokenGroup) : Nat :=
  group.copies.getD 1

end TokenGroup

def groupKinds (groups : List TokenGroup) : List TokenKind :=
  groups.flatMap TokenGroup.kinds

/-- How many bombs groups make together. -/
def groupRepeats : List TokenGroup → Nat
  | [] => 0
  | group :: groups => group.repeats + groupRepeats groups

theorem groupRepeats_pos {groups : List TokenGroup} (counted : ∃ group ∈ groups, 0 < group.repeats) :
    0 < groupRepeats groups := by
  obtain ⟨group, member, positive⟩ := counted
  induction groups with
  | nil => cases member
  | cons first groups ih =>
    rw [groupRepeats]
    rcases List.mem_cons.1 member with rfl | later
    · exact Nat.add_pos_left positive _
    · exact Nat.add_pos_right _ (ih later)

namespace Progress

variable {σ : Type} {start reached : Progress σ}

/-- A reading stands in a group that was opened behind `start`. -/
structure InsideGroup (start : Progress σ) (copies : Nat) (reached : Progress σ) : Prop where
  scope : ∃ draft, reached.scope = .group draft copies
  defaults : reached.defaults = start.defaults
  missionSettings : reached.missionSettings = start.missionSettings
  bombs : reached.bombs = start.bombs

/-- A reading stands behind groups that follow on `start`. -/
structure BehindGroups (start reached : Progress σ) : Prop where
  scope : reached.scope = .mission
  defaults : reached.defaults = start.defaults
  missionSettings : reached.missionSettings = start.missionSettings
  bombs : start.bombs <+: reached.bombs

theorem BehindGroups.refl (outside : start.scope = .mission) : BehindGroups start start :=
  ⟨outside, rfl, rfl, List.prefix_refl _⟩

theorem BehindGroups.trans {middle : Progress σ} (first : BehindGroups start middle)
    (second : BehindGroups middle reached) : BehindGroups start reached where
  scope := second.scope
  defaults := second.defaults.trans first.defaults
  missionSettings := second.missionSettings.trans first.missionSettings
  bombs := first.bombs.trans second.bombs

theorem openGroup_insideGroup (limits : HostLimits) (copies : Option Nat) :
    InsideGroup start (copies.getD 1) (start.openGroup limits copies) :=
  ⟨⟨_, rfl⟩, rfl, rfl, rfl⟩

namespace InsideGroup

variable {copies : Nat}

theorem close (inside : InsideGroup start copies reached) (limits : HostLimits) :
    BehindGroups start (reached.closeScope limits) ∧
      ∃ plan, (reached.closeScope limits).bombs = start.bombs ++ List.replicate copies plan := by
  obtain ⟨draft, opened⟩ := inside.scope
  have bombs : (reached.closeScope limits).bombs =
      start.bombs ++ List.replicate copies (draft.plan reached.defaults) := by
    simp [closeScope, opened, inside.bombs]
  refine ⟨⟨?_, ?_, ?_, ?_⟩, _, bombs⟩
  · simp [closeScope, opened]
  · simp [closeScope, opened, reportAll, inside.defaults]
  · rw [missionSettings_closeScope, inside.missionSettings]
  · rw [bombs]
    exact List.prefix_append _ _

variable [RandomSource σ] {ctx : Context}

theorem addPool (inside : InsideGroup start copies reached) (pool : PoolText) :
    InsideGroup start copies (reached.addPool ctx pool) := by
  obtain ⟨draft, opened⟩ := inside.scope
  have filled : reached.addPool ctx pool =
      (reached.reportIf pool.unclosedQuote .unclosedQuote).fillPool ctx pool := by
    simp [Progress.addPool, reportIf, reportAll, opened, Scope.isMission]
  constructor
  · rw [filled]
    simp [fillPool, reportIf, reportAll, opened, Scope.mapDraft]
  · rw [filled]
    exact inside.defaults
  · rw [missionSettings_addPool, inside.missionSettings]
  · rw [filled]
    exact inside.bombs

/-- A token that is no bracket stays in the group and leaves the rest of the reading alone. -/
theorem step (inside : InsideGroup start copies reached) {kind : TokenKind}
    (bracketless : kind.isBracket = false) :
    InsideGroup start copies (reached.step ctx kind) := by
  by_cases isSetting : kind.isSetting = true
  · obtain ⟨draft, opened⟩ := inside.scope
    have taken : TakesSetting kind reached (reached.step ctx kind) :=
      step_takesSetting ctx isSetting
    have isGroup : reached.scope.isGroup = true := by rw [opened, Scope.isGroup]
    constructor
    · rw [taken.scope, opened]
      exact ⟨_, rfl⟩
    · simp [taken.defaults, opened, Scope.isMission, inside.defaults]
    · rw [missionSettings_step_of_group isGroup, inside.missionSettings]
    · rw [taken.bombs, inside.bombs]
  · cases kind with
    | time | strikes | setting => exact absurd rfl isSetting
    | pool pool => exact inside.addPool pool
    | groupOpen | groupClose => cases bracketless

theorem run (inside : InsideGroup start copies reached) {kinds : List TokenKind}
    (bracketless : ∀ kind ∈ kinds, kind.isBracket = false) :
    InsideGroup start copies (reached.run ctx kinds) := by
  induction kinds generalizing reached with
  | nil => exact inside
  | cons kind kinds ih =>
    rw [run_cons]
    apply ih
    · exact inside.step (bracketless kind List.mem_cons_self)
    · exact fun later member => bracketless later (List.mem_cons_of_mem kind member)

end InsideGroup

section Run

variable [RandomSource σ] (ctx : Context)

theorem run_group (start : Progress σ) (group : TokenGroup) :
    BehindGroups start (start.run ctx group.kinds) ∧
      ∃ plan, (start.run ctx group.kinds).bombs =
        start.bombs ++ List.replicate group.repeats plan := by
  have opened : InsideGroup start group.repeats (start.openGroup ctx.limits group.copies) :=
    openGroup_insideGroup ctx.limits group.copies
  have read : InsideGroup start group.repeats
      ((start.openGroup ctx.limits group.copies).run ctx group.body) :=
    opened.run group.bracketless
  have whole : start.run ctx group.kinds =
      ((start.openGroup ctx.limits group.copies).run ctx group.body).closeScope ctx.limits := by
    rw [TokenGroup.kinds, run_cons, run_append]
    rfl
  rw [whole]
  exact read.close ctx.limits

/-- Groups keep everything that is not a bomb or a problem. -/
theorem run_groups (outside : start.scope = .mission) (groups : List TokenGroup) :
    BehindGroups start (start.run ctx (groupKinds groups)) := by
  induction groups generalizing start with
  | nil => exact .refl outside
  | cons group groups ih =>
    have first := (run_group ctx start group).1
    rw [groupKinds, List.flatMap_cons, run_append]
    exact first.trans (ih first.scope)

/-- Groups make as many bombs as they ask for, whatever problems they have. -/
theorem length_bombs_run_groups (start : Progress σ) (groups : List TokenGroup) :
    (start.run ctx (groupKinds groups)).bombs.length =
      start.bombs.length + groupRepeats groups := by
  induction groups generalizing start with
  | nil => rfl
  | cons group groups ih =>
    obtain ⟨-, plan, made⟩ := run_group ctx start group
    have first : (start.run ctx group.kinds).bombs.length = start.bombs.length + group.repeats := by
      rw [made, List.length_append, List.length_replicate]
    have whole : groupKinds (group :: groups) = group.kinds ++ groupKinds groups :=
      List.flatMap_cons
    rw [whole, run_append, ih, first, groupRepeats, Nat.add_assoc]

theorem bombs_run_groups_ne_nil {groups : List TokenGroup}
    (counted : ∃ group ∈ groups, 0 < group.repeats) :
    (start.run ctx (groupKinds groups)).bombs ≠ [] := by
  rw [← List.length_pos_iff, length_bombs_run_groups]
  exact Nat.add_pos_right _ (groupRepeats_pos counted)

/-- Whether there was a group before makes no difference to groups. -/
theorem run_groups_groupsUsed (start : Progress σ) {groups : List TokenGroup}
    (nonempty : groups ≠ []) (used : Bool) :
    run ctx { start with groupsUsed := used } (groupKinds groups) =
      run ctx start (groupKinds groups) := by
  obtain ⟨group, later, rfl⟩ := List.exists_cons_of_ne_nil nonempty
  rfl

end Run

theorem finish_of_bombs (outside : reached.scope = .mission) (made : reached.bombs ≠ [])
    (limits : HostLimits) : reached.finish limits = reached := by
  simp only [finish, outside]
  simp only [List.isEmpty_eq_false_iff.2 made, reportIf, reportAll, Bool.false_eq_true, if_false,
    List.append_nil]

end Progress

theorem readTokens_groups {σ : Type} [RandomSource σ] (ctx : Context) {groups : List TokenGroup}
    (counted : ∃ group ∈ groups, 0 < group.repeats) (source : σ) :
    readTokens ctx (groupKinds groups) source = Progress.run ctx { source } (groupKinds groups) :=
  Progress.finish_of_bombs (Progress.run_groups ctx rfl groups).scope
    (Progress.bombs_run_groups_ne_nil ctx counted) ctx.limits

theorem length_bombs_readTokens_groups {σ : Type} [RandomSource σ] (ctx : Context)
    {groups : List TokenGroup} (counted : ∃ group ∈ groups, 0 < group.repeats) (source : σ) :
    (readTokens ctx (groupKinds groups) source).bombs.length = groupRepeats groups := by
  rw [readTokens_groups ctx counted, Progress.length_bombs_run_groups]
  exact Nat.zero_add _

/-- Behind groups, a reading is a new one with their bombs and problems in front. -/
theorem Progress.BehindGroups.eq_behind {σ : Type} {source : σ} {reached : Progress σ}
    (behind : BehindGroups { source } reached) :
    reached =
      Progress.behind { source := reached.source, groupsUsed := reached.groupsUsed } reached.bombs
        reached.diagnostics := by
  obtain ⟨pacing, specified, mode, seed⟩ := MissionSettings.mk.inj behind.missionSettings
  have scope := behind.scope
  have defaults := behind.defaults
  cases reached
  simp only at pacing specified mode seed scope defaults
  simp [Progress.behind, pacing, specified, mode, seed, scope, defaults]

/-! ### The outline -/

/-- The outline of a text in two parts, where the numbers of the second part count on. -/
def Outline.followedBy (first second : Outline) : Outline :=
  { second with
    bombs := first.bombs ++ second.bombs
    diagnostics :=
      first.diagnostics ++ second.diagnostics.map (Diagnostic.renumber first.bombs.length) }

theorem readTokens_groups_append {σ : Type} [RandomSource σ] (ctx : Context)
    {first second : List TokenGroup} (source : σ)
    (firstCounted : ∃ group ∈ first, 0 < group.repeats)
    (secondCounted : ∃ group ∈ second, 0 < group.repeats) :
    readTokens ctx (groupKinds first ++ groupKinds second) source =
      let earlier := readTokens ctx (groupKinds first) source
      (readTokens ctx (groupKinds second) earlier.source).behind earlier.bombs
        earlier.diagnostics := by
  have both : groupKinds first ++ groupKinds second = groupKinds (first ++ second) :=
    List.flatMap_append.symm
  have counted : ∃ group ∈ first ++ second, 0 < group.repeats := by
    obtain ⟨group, member, positive⟩ := firstCounted
    exact ⟨group, List.mem_append_left second member, positive⟩
  have nonempty : second ≠ [] := by
    obtain ⟨group, member, -⟩ := secondCounted
    exact List.ne_nil_of_mem member
  have front : Progress.BehindGroups { source } (Progress.run ctx { source } (groupKinds first)) :=
    Progress.run_groups ctx rfl first
  rw [both, readTokens_groups ctx counted, ← both, Progress.run_append,
    readTokens_groups ctx firstCounted]
  simp only [readTokens_groups ctx secondCounted]
  generalize Progress.run ctx { source } (groupKinds first) = earlier at front
  -- the groups in front leave a mark that there was one, which only a pool outside would notice
  calc earlier.run ctx (groupKinds second)
      = (Progress.behind { source := earlier.source, groupsUsed := earlier.groupsUsed }
          earlier.bombs earlier.diagnostics).run ctx (groupKinds second) := by
        rw [← front.eq_behind]
    _ = (Progress.run ctx { source := earlier.source, groupsUsed := earlier.groupsUsed }
          (groupKinds second)).behind earlier.bombs earlier.diagnostics := Progress.run_behind _
    _ = (Progress.run ctx { source := earlier.source } (groupKinds second)).behind earlier.bombs
          earlier.diagnostics :=
        congrArg (fun later => later.behind earlier.bombs earlier.diagnostics)
          (Progress.run_groups_groupsUsed ctx { source := earlier.source } nonempty _)

/-- Groups are read on their own. The outline of two sequences of groups that both make a bomb is that
of the first followed by that of the second, which draws from the source that the first leaves. This
holds with problems in either part as well. -/
theorem ofTokens_groups_append {σ : Type} [RandomSource σ] (ctx : Context)
    (first second : List TokenGroup) (source : σ)
    (firstCounted : ∃ group ∈ first, 0 < group.repeats)
    (secondCounted : ∃ group ∈ second, 0 < group.repeats) :
    let earlier := Outline.ofTokens ctx (groupKinds first) source
    let later := Outline.ofTokens ctx (groupKinds second) earlier.2
    Outline.ofTokens ctx (groupKinds first ++ groupKinds second) source =
      (earlier.1.followedBy later.1, later.2) := by
  intro earlier later
  simp only [Outline.ofTokens, readTokens_groups_append ctx source firstCounted secondCounted]
  rfl

/-- A pair of bombs with two time limits, then a group that makes none and one without modules. Both
are on the third bomb. -/
theorem ofTokens_groups_append_broken :
    (Outline.ofTokens {}
      (groupKinds [⟨some 2, [.time 60, .time 90, .pool ⟨"Wires", none, false, false⟩], by decide⟩] ++
        groupKinds [⟨some 0, [.setting .noPacing none], by decide⟩, ⟨none, [], by decide⟩])
      (SplitMix.ofSeed 0)).1.diagnostics =
      [.duplicate .time, .invalidRepeatCount, .insideGroup .pacing, .noSolvableModules (some 3),
        .noSolvableModules (some 3)] := by
  rw [ofTokens_groups_append]
  · decide +kernel
  · exact ⟨_, List.mem_singleton_self _, by decide⟩
  · exact ⟨_, List.mem_cons_of_mem _ (List.mem_singleton_self _), by decide⟩

end BombMission
