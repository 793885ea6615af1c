import BombMission.Proofs.Mission.Compiled
import BombMission.Proofs.Mission.Scopes
import BombMission.Proofs.Outline.MissionWide
import Mathlib.Algebra.GroupWithZero.Nat

/-!
# Settings that are given twice

A setting may be given once in each of its scopes, and every further time is reported, whether or not
the values are good. A bomb outside groups has no turn of its own left when the mission has a good
value for the setting. So the number of reports is known scope by scope. The rule seed has the text
outside groups for its only scope.

## Main results

* `Progress.count_run`: the reports for one setting are the repetitions in all scopes.
* `Progress.count_ruleSeed_run`: those for the rule seed.
* `readTokens_countsDuplicates`: both for a whole text, and what they come to for a mission.

## Proof strategy

A token is reported when the slot that it goes to was given before. `Progress.Follows` says that the
slot was given exactly when the scope of the token holds the setting, and that is when one more token
is one more repetition of it.
-/

namespace BombMission

/-! ### Repetitions -/

namespace WrittenScope

variable {scope : WrittenScope} {setting : BombSetting} {kind : TokenKind}

/-- How often a setting is given in a scope that has it already. -/
def repetitions (setting : BombSetting) (scope : WrittenScope) : Nat :=
  timesGiven setting scope.own - if scope.startsWith setting then 0 else 1

theorem timesGiven_concat (setting : BombSetting) (kinds : List TokenKind) (kind : TokenKind) :
    timesGiven setting (kinds ++ [kind]) =
      timesGiven setting kinds + (kind.gives setting).toNat := by
  simp only [timesGiven, List.countP_append, List.countP_singleton]
  cases kind.gives setting <;> rfl

/-- A token for a setting is a repetition where its scope holds the setting. -/
theorem repetitions_add (scope : WrittenScope) (setting : BombSetting) (kind : TokenKind) :
    (scope.add kind).repetitions setting =
      scope.repetitions setting + (kind.gives setting && scope.holds setting).toNat := by
  have starts : (scope.add kind).startsWith setting = scope.startsWith setting := rfl
  have given : timesGiven setting (scope.add kind).own =
      timesGiven setting scope.own + (kind.gives setting).toNat :=
    timesGiven_concat setting scope.own kind
  simp only [repetitions, starts, given, holds]
  generalize scope.startsWith setting = startsWith
  cases kind.gives setting with
  | false => rfl
  | true =>
    cases startsWith with
    | true => rfl
    | false =>
      -- the first time in a scope is no repetition yet
      generalize timesGiven setting scope.own = times
      cases times with
      | zero => rfl
      | succ times => simp

end WrittenScope

namespace ScopeScan

variable {scan : ScopeScan} {setting : BombSetting} {kind : TokenKind}

/-- How often a setting is repeated in all scopes together. -/
def repetitions (setting : BombSetting) (scan : ScopeScan) : Nat :=
  (scan.scopes.map (WrittenScope.repetitions setting)).sum

theorem repetitions_addSetting :
    (scan.addSetting kind).repetitions setting =
      scan.repetitions setting + (kind.gives setting && scan.current.holds setting).toNat := by
  obtain ⟨mission, opened, grouped, ended⟩ := scan
  cases opened with
  | none =>
    have added := WrittenScope.repetitions_add { own := mission } setting kind
    simp only [WrittenScope.add] at added
    simp only [repetitions, scopes, addSetting, current, Option.toList_none, Option.getD_none,
      List.append_nil, List.map_cons, List.sum_cons, added]
    omega
  | some scope =>
    have added := WrittenScope.repetitions_add scope setting kind
    simp only [repetitions, scopes, addSetting, current, Option.toList_some, Option.getD_some,
      List.map_cons, List.map_append, List.map_nil, List.sum_cons, List.sum_append, List.sum_nil,
      added]
    omega

/-- A token moves on the repetitions of a setting when it is one, and otherwise leaves them. A scope
that opens has none. -/
theorem repetitions_step :
    (scan.step kind).repetitions setting =
      scan.repetitions setting + (kind.gives setting && scan.current.holds setting).toNat := by
  have fresh : ∀ inherited : List TokenKind,
      WrittenScope.repetitions setting { inherited } = 0 := by
    intro inherited
    simp [WrittenScope.repetitions, timesGiven]
  cases kind with
  | time | strikes | setting => exact repetitions_addSetting
  | pool pool =>
    -- only a pool outside bombs opens a scope, and what it inherits is no repetition there
    have notGiven : (TokenKind.pool pool).gives setting = false := rfl
    simp only [step, notGiven, Bool.false_and, Bool.toNat_false, Nat.add_zero]
    split
    next opens =>
      have closed : scan.opened = none := by
        simp only [Bool.and_eq_true, Option.isNone_iff_eq_none] at opens
        exact opens.1
      simp [repetitions, scopes, closed, fresh]
    · rfl
  | groupOpen copies =>
    have notGiven : (TokenKind.groupOpen copies).gives setting = false := rfl
    simp [repetitions, scopes, step, notGiven, fresh]
  | groupClose =>
    have notGiven : TokenKind.groupClose.gives setting = false := rfl
    simp [repetitions, scopes, step, notGiven]

end ScopeScan

/-! ### Reports -/

theorem count_of_allAbout {topic : ProblemTopic} {problems : List Diagnostic}
    {problem : Diagnostic} (about : allAbout topic problems = true)
    (other : problem.topic ≠ topic) : problems.count problem = 0 :=
  List.count_eq_zero.2 fun member => other (topic_of_allAbout about problem member)

namespace Progress

variable {σ : Type} {progress : Progress σ} {ctx : Context} {kind : TokenKind}
  {setting : BombSetting}

theorem count_assignmentProblems (given : BombSetting) (value : Option Nat) :
    (progress.assignmentProblems given value).count (.duplicate setting) =
      (decide (given = setting) && (progress.openSettings.slot setting).specified).toNat := by
  have bad : (if value.isNone then [Diagnostic.invalidValue given] else []).count
      (.duplicate setting) = 0 := by
    split <;> rfl
  simp only [assignmentProblems, List.count_append, bad, Nat.add_zero]
  by_cases same : given = setting
  · subst same
    cases (progress.openSettings.slot given).specified <;> simp
  · cases (progress.openSettings.slot given).specified <;> simp [same]

variable [RandomSource σ]

/-- The settings of the mission are never reported as given twice in a bomb. -/
theorem count_missionProblems {name : SettingName} {value : Option String}
    (other : (TokenKind.setting name value).assignment? = none) :
    (progress.problemsOf ctx (.setting name value)).count (.duplicate setting) = 0 := by
  rw [List.count_eq_zero]
  cases name with
  | strikes | needyActivationTime | widgets => cases other
  | frontOnly => simp [problemsOf, settingProblems]
  | noPacing =>
    simp only [problemsOf, settingProblems]
    split <;> simp
  | factory =>
    simp only [problemsOf, settingProblems]
    split
    · simp
    · intro member
      rcases mem_factoryProblems member with same | same | same <;> cases same
  | ruleSeed =>
    simp only [problemsOf, settingProblems]
    split
    · simp
    · intro member
      rcases mem_ruleSeedProblems member with same | same <;> cases same

/-- A token for a setting is reported as a repetition when the slot of its scope was given. -/
theorem count_problemsOf :
    (progress.problemsOf ctx kind).count (.duplicate setting) =
      (kind.gives setting && (progress.openSettings.slot setting).specified).toNat := by
  have about := allAbout_problemsOf progress ctx kind
  cases kind with
  | time | strikes => apply count_assignmentProblems
  | setting name value =>
    cases name with
    | strikes | needyActivationTime | widgets => apply count_assignmentProblems
    | frontOnly | noPacing | factory | ruleSeed =>
      rw [count_missionProblems rfl]
      rfl
  | pool | groupOpen | groupClose =>
    apply count_of_allAbout about
    simp [Diagnostic.topic, TokenKind.topic]

/-- What is reported of a setting is what its scopes repeat. -/
theorem count_run (ctx : Context) (setting : BombSetting) (kinds : List TokenKind) (source : σ) :
    (run ctx { source } kinds).diagnostics.count (.duplicate setting) =
      (ScopeScan.run kinds).repetitions setting := by
  -- what a token repeats depends on the scopes in front of it, so tokens come off at the end
  induction kinds using List.reverseRecOn with
  | nil => cases setting <;> rfl
  | append_singleton kinds kind ih =>
    have known := (run_follows ctx kinds source).openSettings.specified setting
    rw [run_concat, diagnostics_step, List.count_append, ih, count_problemsOf, known,
      ScopeScan.run_concat, ScopeScan.repetitions_step]

/-! ### The rule seed -/

theorem count_ruleSeed_problemsOf :
    (progress.problemsOf ctx kind).count (.duplicateForMission .ruleSeed) =
      (decide (kind.missionSetting? = some .ruleSeed) && !progress.scope.isGroup &&
        progress.ruleSeed.isSome).toNat := by
  have about := allAbout_problemsOf progress ctx kind
  have assigned : ∀ setting value, (progress.assignmentProblems setting value).count
      (.duplicateForMission .ruleSeed) = 0 := by
    intro setting value
    simp only [assignmentProblems]
    split <;> split <;> rfl
  cases kind with
  | time | strikes => apply assigned
  | setting name value =>
    cases name with
    | strikes | needyActivationTime | widgets => apply assigned
    | frontOnly => rfl
    | noPacing =>
      simp only [problemsOf, settingProblems]
      split <;> rfl
    | factory =>
      have silent : (progress.problemsOf ctx (.setting .factory value)).count
          (.duplicateForMission .ruleSeed) = 0 := by
        rw [List.count_eq_zero]
        simp only [problemsOf, settingProblems]
        split
        · simp
        · intro member
          rcases mem_factoryProblems member with same | same | same <;> cases same
      exact silent
    | ruleSeed =>
      simp only [problemsOf, settingProblems, ruleSeedProblems, TokenKind.missionSetting?]
      cases progress.scope.isGroup with
      | true => rfl
      | false =>
        cases progress.ruleSeed.isSome <;> cases (readRuleSeed value).isNone <;> rfl
  | pool | groupOpen | groupClose =>
    apply count_of_allAbout about
    simp [Diagnostic.topic, TokenKind.topic]

/-- There is a rule seed once one was given outside groups, with a good value or a bad one. -/
theorem isSome_ruleSeed_step :
    (progress.step ctx kind).ruleSeed.isSome = (progress.ruleSeed.isSome ||
      (decide (kind.missionSetting? = some .ruleSeed) && !progress.scope.isGroup)) := by
  have same : ∀ after : Progress σ, after.missionSettings = progress.missionSettings →
      after.ruleSeed = progress.ruleSeed :=
    fun _ kept => congrArg MissionSettings.ruleSeed kept
  cases inside : progress.scope.isGroup with
  | true =>
    rw [same _ (missionSettings_step_of_group inside)]
    simp
  | false =>
    cases found : kind.missionSetting? with
    | none =>
      rw [same _ (missionSettings_step_of_none found)]
      simp
    | some asked =>
      -- outside groups a bad seed counts as one too: it asks for a random one
      cases kind with
      | setting name value =>
        cases name with
        | ruleSeed =>
          cases found
          simp [step, applySetting, setRuleSeed, inside, reportIf, reportAll]
        | noPacing =>
          cases found
          simp [step, applySetting, disablePacing, inside]
        | factory =>
          cases found
          simp [step, applySetting]
        | strikes | needyActivationTime | widgets | frontOnly => cases found
      | time | strikes | pool | groupOpen | groupClose => cases found

end Progress

/-- How often the rule seed is given outside groups. -/
def ruleSeedsGiven (kinds : List TokenKind) : Nat :=
  (standing (fun before => !insideGroup before) kinds).countP fun kind =>
    kind.missionSetting? = some .ruleSeed

theorem ruleSeedsGiven_concat (kinds : List TokenKind) (kind : TokenKind) :
    ruleSeedsGiven (kinds ++ [kind]) = ruleSeedsGiven kinds +
      (decide (kind.missionSetting? = some .ruleSeed) && !insideGroup kinds).toNat := by
  simp only [ruleSeedsGiven, standing_concat, List.countP_append]
  cases insideGroup kinds with
  | true => simp
  | false =>
    by_cases asked : kind.missionSetting? = some .ruleSeed
    · simp [asked]
    · simp [asked]

namespace Progress

variable {σ : Type} [RandomSource σ]

theorem isSome_ruleSeed_run (ctx : Context) (kinds : List TokenKind) (source : σ) :
    (run ctx { source } kinds).ruleSeed.isSome = decide (0 < ruleSeedsGiven kinds) := by
  induction kinds using List.reverseRecOn with
  | nil => rfl
  | append_singleton kinds kind ih =>
    rw [run_concat, isSome_ruleSeed_step, ih, isGroup_run, ruleSeedsGiven_concat]
    cases decide (kind.missionSetting? = some .ruleSeed) && !insideGroup kinds <;> simp

theorem count_ruleSeed_run (ctx : Context) (kinds : List TokenKind) (source : σ) :
    (run ctx { source } kinds).diagnostics.count (.duplicateForMission .ruleSeed) =
      ruleSeedsGiven kinds - 1 := by
  induction kinds using List.reverseRecOn with
  | nil => rfl
  | append_singleton kinds kind ih =>
    rw [run_concat, diagnostics_step, List.count_append, ih, count_ruleSeed_problemsOf,
      isGroup_run, isSome_ruleSeed_run, ruleSeedsGiven_concat]
    cases decide (kind.missionSetting? = some .ruleSeed) && !insideGroup kinds with
    | false => rfl
    | true =>
      -- the first seed is not reported, and every later one is
      generalize ruleSeedsGiven kinds = times
      cases times with
      | zero => rfl
      | succ times => simp

end Progress

/-! ### Texts -/

section Texts

variable {σ : Type} [RandomSource σ]

theorem count_readTokens {problem : Diagnostic} (other : problem.topic ≠ .bomb) (ctx : Context)
    (kinds : List TokenKind) (source : σ) :
    (readTokens ctx kinds source).diagnostics.count problem =
      (Progress.run ctx { source } kinds).diagnostics.count problem := by
  simp only [readTokens]
  rw [Progress.diagnostics_finish, List.count_append,
    count_of_allAbout (Progress.allAbout_endProblems _) other, Nat.add_zero]

/-- Where nothing is reported as given twice, no scope repeats a setting. -/
theorem timesGiven_le_of_count (ctx : Context) {kinds : List TokenKind} (source : σ)
    (none : ∀ setting, (Progress.run ctx { source } kinds).diagnostics.count
      (.duplicate setting) = 0)
    {scope : WrittenScope} (written : scope ∈ writtenScopes kinds) (setting : BombSetting) :
    timesGiven setting scope.own ≤ if scope.startsWith setting then 0 else 1 := by
  have total : ((writtenScopes kinds).map (WrittenScope.repetitions setting)).sum = 0 :=
    (Progress.count_run ctx setting kinds source).symm.trans (none setting)
  have own : scope.repetitions setting = 0 :=
    List.sum_eq_zero_iff_forall_eq_nat.1 total _ (List.mem_map_of_mem written)
  simp only [WrittenScope.repetitions] at own
  omega

/-- A setting is reported as given twice as often as the scopes of the text repeat it, and the rule
seed as often as it is repeated outside groups. So a mission gives no setting twice in one scope. -/
theorem readTokens_countsDuplicates (ctx : Context) (tokens : List Token) (source : σ) :
    (∀ setting,
      (readTokens ctx (tokens.map Token.kind) source).diagnostics.count (.duplicate setting) =
        ((writtenScopes (tokens.map Token.kind)).map
          (WrittenScope.repetitions setting)).sum) ∧
    (readTokens ctx (tokens.map Token.kind) source).diagnostics.count
        (.duplicateForMission .ruleSeed) =
      ruleSeedsGiven (tokens.map Token.kind) - 1 ∧
    ∀ mission, (compileTokens ctx tokens source).1 = .ok mission →
      (∀ scope ∈ writtenScopes (tokens.map Token.kind), ∀ setting,
        timesGiven setting scope.own ≤ if scope.startsWith setting then 0 else 1) ∧
      ruleSeedsGiven (tokens.map Token.kind) ≤ 1 := by
  have settings : ∀ setting, _ := fun setting =>
    (count_readTokens (by simp [Diagnostic.topic]) ctx (tokens.map Token.kind) source).trans
      (Progress.count_run ctx setting (tokens.map Token.kind) source)
  have seeds := (count_readTokens (by decide) ctx (tokens.map Token.kind) source).trans
    (Progress.count_ruleSeed_run ctx (tokens.map Token.kind) source)
  refine ⟨settings, seeds, fun mission made => ?_⟩
  -- a mission has no problems, so no count of them is positive
  have clean : (readTokens ctx (tokens.map Token.kind) source).diagnostics = [] :=
    (Outline.problems_eq_nil_iff.1 (Outline.toMission_eq_ok_iff.1 made).1).1
  rw [clean] at seeds
  refine ⟨fun scope written setting => ?_, ?_⟩
  · refine timesGiven_le_of_count ctx source (fun setting => ?_) written setting
    rw [← count_readTokens (by simp [Diagnostic.topic]), clean]
    rfl
  · have few : 0 = ruleSeedsGiven (tokens.map Token.kind) - 1 := seeds
    omega

/-- A second time limit for all bombs, and one for a bomb that had it from there. -/
theorem countsDuplicates_inherited :
    (readTokens {} ((scanTokens "5:00 6:00 Wires 7:00").map Token.kind)
      (SplitMix.ofSeed 0)).diagnostics.count (.duplicate .time) = 2 ∧
    ∃ mission, (compileTokens { limits := { ruleSeed := true } }
        (scanTokens "5:00 ruleseed:7 Wires") (SplitMix.ofSeed 0)).1 = .ok mission ∧
      ruleSeedsGiven ((scanTokens "5:00 ruleseed:7 Wires").map Token.kind) ≤ 1 := by
  constructor
  · rw [(readTokens_countsDuplicates {} (scanTokens "5:00 6:00 Wires 7:00") (SplitMix.ofSeed 0)).1]
    decide +kernel
  · have makes : (compileTokens { limits := { ruleSeed := true } }
        (scanTokens "5:00 ruleseed:7 Wires") (SplitMix.ofSeed 0)).1.toOption.isSome = true := by
      decide +kernel
    obtain ⟨mission, found⟩ := Option.isSome_iff_exists.1 makes
    have made := eq_ok_of_toOption found
    have once := (readTokens_countsDuplicates _ _ _).2.2 mission made
    exact ⟨mission, made, once.2⟩

end Texts

end BombMission
