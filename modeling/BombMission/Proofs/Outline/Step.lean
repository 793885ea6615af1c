import BombMission.Outline
import Mathlib.Data.List.Forall2

/-!
# What a token does

Reading a token either goes without a problem or leaves a trace in the diagnostics, which only ever
grow. This module says, kind by kind, what a token changes. A setting changes the settings of the
open scope and nothing else of the bombs. A pool or a bracket that goes without a problem does
exactly one thing: `addPool_of_clean`, `openGroup_of_clean` and `closeScope_of_clean` invert them,
and `finish_of_clean` the end of the text. `clean_run_induction` carries an invariant from the steps
to a whole run.
-/

namespace BombMission

theorem forall₂_replicate {α β : Type} {R : α → β → Prop} {a : α} {b : β} (count : Nat)
    (related : R a b) : List.Forall₂ R (List.replicate count a) (List.replicate count b) := by
  induction count with
  | zero => exact .nil
  | succ count ih => exact .cons related ih

/-- Whether a token is a time, a strike limit or a setting written as a keyword. -/
def TokenKind.isSetting : TokenKind → Bool
  | time _ | strikes _ | setting .. => true
  | pool _ | groupOpen _ | groupClose => false

/-- The setting of a bomb that a token gives a value. No value stands for a bad one. -/
def TokenKind.assignment? : TokenKind → Option (BombSetting × Option Nat)
  | time seconds => some (.time, timeLimit? seconds)
  | strikes limit => some (.strikes, positive? limit)
  | setting .strikes value => some (.strikes, (settingNumber value).bind positive?)
  | setting .needyActivationTime value => some (.needyActivationTime, settingNumber value)
  | setting .widgets value => some (.widgets, settingNumber value)
  | _ => none

namespace Settings

def assign (settings : Settings) (setting : BombSetting) (value : Option Nat) : Settings :=
  settings.setSlot setting ((settings.slot setting).assign value)

/-- The settings of a scope after a token in it. -/
def after (settings : Settings) (kind : TokenKind) : Settings :=
  match kind.assignment?, kind with
  | some (setting, value), _ => settings.assign setting value
  | none, .setting .frontOnly _ => { settings with frontOnly := true }
  | none, _ => settings

end Settings

def BombDraft.changeSettings (draft : BombDraft) (change : Settings → Settings) : BombDraft :=
  { draft with settings := change draft.settings }

/-- What the body of a pool comes to, with the number of its places. -/
def PoolText.resolve {σ : Type} [RandomSource σ] (pool : PoolText) (ctx : Context) (source : σ) :
    Resolution × σ :=
  resolvePool ctx pool.body (pool.count.getD 1) pool.unique source

namespace Progress

variable {σ : Type} {progress : Progress σ}

/-! ### Settings -/

@[simp] theorem scope_changeSettings (change : Settings → Settings) :
    (progress.changeSettings change).scope =
      progress.scope.mapDraft fun draft => draft.changeSettings change := by
  unfold changeSettings
  cases found : progress.scope <;> simp [Scope.isMission, Scope.mapDraft] <;> rfl

@[simp] theorem defaults_changeSettings (change : Settings → Settings) :
    (progress.changeSettings change).defaults =
      if progress.scope.isMission then change progress.defaults else progress.defaults := by
  unfold changeSettings
  split <;> rfl

@[simp] theorem source_changeSettings (change : Settings → Settings) :
    (progress.changeSettings change).source = progress.source := by
  unfold changeSettings
  split <;> rfl

@[simp] theorem groupsUsed_changeSettings (change : Settings → Settings) :
    (progress.changeSettings change).groupsUsed = progress.groupsUsed := by
  unfold changeSettings
  split <;> rfl

@[simp] theorem bombs_changeSettings (change : Settings → Settings) :
    (progress.changeSettings change).bombs = progress.bombs := by
  unfold changeSettings
  split <;> rfl

@[simp] theorem diagnostics_changeSettings (change : Settings → Settings) :
    (progress.changeSettings change).diagnostics = progress.diagnostics := by
  unfold changeSettings
  split <;> rfl

/-- What a token that sets something leaves as it was, and what it does to the settings. -/
structure TakesSetting (kind : TokenKind) (before after : Progress σ) : Prop where
  source : after.source = before.source
  groupsUsed : after.groupsUsed = before.groupsUsed
  bombs : after.bombs = before.bombs
  scope : after.scope =
    before.scope.mapDraft fun draft => draft.changeSettings fun settings => settings.after kind
  defaults : after.defaults =
    if before.scope.isMission then before.defaults.after kind else before.defaults

/-- The slot that is read before a setting is given is the one that is changed. -/
theorem assign_takesSetting {kind : TokenKind} {setting : BombSetting} {value : Option Nat}
    (assigns : kind.assignment? = some (setting, value)) :
    TakesSetting kind progress (progress.assign setting value) := by
  have after : ∀ settings : Settings,
      settings.after kind = settings.assign setting value := by
    intro settings
    simp [Settings.after, assigns]
  cases found : progress.scope with
  | mission =>
    constructor <;> simp [assign, reportIf, reportAll, changeSettings, openSettings, Scope.draft?,
      Scope.isMission, Scope.mapDraft, found, after, Settings.assign]
  | single draft =>
    constructor <;> simp [assign, reportIf, reportAll, changeSettings, openSettings, Scope.draft?,
      Scope.isMission, Scope.mapDraft, BombDraft.changeSettings, found, after, Settings.assign]
  | group draft copies =>
    constructor <;> simp [assign, reportIf, reportAll, changeSettings, openSettings, Scope.draft?,
      Scope.isMission, Scope.mapDraft, BombDraft.changeSettings, found, after, Settings.assign]

theorem TakesSetting.of_unchanged {kind : TokenKind} {after : Progress σ}
    (keeps : ∀ settings : Settings, settings.after kind = settings)
    (source : after.source = progress.source) (groupsUsed : after.groupsUsed = progress.groupsUsed)
    (bombs : after.bombs = progress.bombs) (scope : after.scope = progress.scope)
    (defaults : after.defaults = progress.defaults) : TakesSetting kind progress after := by
  refine ⟨source, groupsUsed, bombs, ?_, ?_⟩
  · rw [scope]
    cases progress.scope <;> simp [Scope.mapDraft, BombDraft.changeSettings, keeps]
  · simp [defaults, keeps]

theorem disablePacing_takesSetting (value : Option String) :
    TakesSetting (.setting .noPacing value) progress progress.disablePacing := by
  unfold disablePacing
  split <;> exact .of_unchanged (fun _ => rfl) rfl rfl rfl rfl rfl

theorem setFactory_takesSetting (limits : HostLimits) (value : Option String) :
    TakesSetting (.setting .factory value) progress (progress.setFactory limits value) := by
  unfold setFactory
  split
  · exact .of_unchanged (fun _ => rfl) rfl rfl rfl rfl rfl
  · split
    · exact .of_unchanged (fun _ => rfl) rfl rfl rfl rfl rfl
    · split <;> exact .of_unchanged (fun _ => rfl) rfl rfl rfl rfl rfl

theorem setRuleSeed_takesSetting (value : Option String) :
    TakesSetting (.setting .ruleSeed value) progress (progress.setRuleSeed value) := by
  unfold setRuleSeed
  split <;> exact .of_unchanged (fun _ => rfl) rfl rfl rfl rfl rfl

theorem step_takesSetting [RandomSource σ] (ctx : Context) {kind : TokenKind}
    (isSetting : kind.isSetting = true) : TakesSetting kind progress (progress.step ctx kind) := by
  cases kind with
  | pool | groupOpen | groupClose => cases isSetting
  | time seconds => exact assign_takesSetting rfl
  | strikes limit => exact assign_takesSetting rfl
  | setting name value =>
    cases name with
    | strikes => exact assign_takesSetting rfl
    | needyActivationTime => exact assign_takesSetting rfl
    | widgets => exact assign_takesSetting rfl
    | frontOnly =>
      exact ⟨source_changeSettings _, groupsUsed_changeSettings _, bombs_changeSettings _,
        scope_changeSettings _, defaults_changeSettings _⟩
    | noPacing => exact disablePacing_takesSetting value
    | factory => exact setFactory_takesSetting ctx.limits value
    | ruleSeed => exact setRuleSeed_takesSetting value

/-! ### Problems -/

@[simp] theorem diagnostics_reportAll (problems : List Diagnostic) :
    (progress.reportAll problems).diagnostics = progress.diagnostics ++ problems := rfl

@[simp] theorem diagnostics_report (problem : Diagnostic) :
    (progress.report problem).diagnostics = progress.diagnostics ++ [problem] := rfl

@[simp] theorem diagnostics_reportIf (condition : Bool) (problem : Diagnostic) :
    (progress.reportIf condition problem).diagnostics =
      progress.diagnostics ++ if condition then [problem] else [] := rfl

theorem prefix_assign (setting : BombSetting) (value : Option Nat) :
    progress.diagnostics <+: (progress.assign setting value).diagnostics := by
  simp [assign, List.append_assoc]

theorem prefix_disablePacing : progress.diagnostics <+: progress.disablePacing.diagnostics := by
  unfold disablePacing
  split
  · exact List.prefix_append _ _
  · exact List.prefix_refl _

theorem prefix_setFactory (limits : HostLimits) (value : Option String) :
    progress.diagnostics <+: (progress.setFactory limits value).diagnostics := by
  unfold setFactory
  split
  · exact List.prefix_append _ _
  · split
    · exact List.prefix_append _ _
    · split <;> exact List.prefix_append _ _

theorem prefix_setRuleSeed (value : Option String) :
    progress.diagnostics <+: (progress.setRuleSeed value).diagnostics := by
  unfold setRuleSeed
  split
  · exact List.prefix_append _ _
  · simp [List.append_assoc]

theorem prefix_applySetting (limits : HostLimits) (name : SettingName) (value : Option String) :
    progress.diagnostics <+: (progress.applySetting limits name value).diagnostics := by
  cases name with
  | strikes | needyActivationTime | widgets => exact prefix_assign _ _
  | frontOnly => simp [applySetting]
  | noPacing => exact prefix_disablePacing
  | factory => exact prefix_setFactory limits value
  | ruleSeed => exact prefix_setRuleSeed value

theorem prefix_fillPool [RandomSource σ] (ctx : Context) (pool : PoolText) :
    progress.diagnostics <+: (progress.fillPool ctx pool).diagnostics := by
  simp [fillPool, List.append_assoc]

/-- An open quote is reported first. -/
theorem prefix_addPool_quote [RandomSource σ] (ctx : Context) (pool : PoolText) :
    (progress.reportIf pool.unclosedQuote .unclosedQuote).diagnostics <+:
      (progress.addPool ctx pool).diagnostics := by
  unfold addPool
  dsimp only
  split
  · split
    · exact List.prefix_append _ _
    · exact prefix_fillPool ctx pool
  · exact prefix_fillPool ctx pool

theorem prefix_addPool [RandomSource σ] (ctx : Context) (pool : PoolText) :
    progress.diagnostics <+: (progress.addPool ctx pool).diagnostics :=
  (List.prefix_append _ _).trans (prefix_addPool_quote ctx pool)

theorem prefix_openGroup (limits : HostLimits) (copies : Option Nat) :
    progress.diagnostics <+: (progress.openGroup limits copies).diagnostics := by
  simp [openGroup, List.append_assoc]

theorem prefix_closeScope (limits : HostLimits) :
    progress.diagnostics <+: (progress.closeScope limits).diagnostics := by
  unfold closeScope
  split <;> exact List.prefix_append _ _

theorem prefix_finish (limits : HostLimits) :
    progress.diagnostics <+: (progress.finish limits).diagnostics := by
  unfold finish
  split <;> exact List.prefix_append _ _

/-- No token takes a problem back. -/
theorem prefix_step [RandomSource σ] (ctx : Context) (kind : TokenKind) :
    progress.diagnostics <+: (progress.step ctx kind).diagnostics := by
  cases kind with
  | time seconds => exact prefix_assign _ _
  | strikes limit => exact prefix_assign _ _
  | setting name value => exact prefix_applySetting ctx.limits name value
  | pool pool => exact prefix_addPool ctx pool
  | groupOpen copies => exact prefix_openGroup ctx.limits copies
  | groupClose => exact prefix_closeScope ctx.limits

theorem prefix_run [RandomSource σ] (ctx : Context) (kinds : List TokenKind) :
    progress.diagnostics <+: (progress.run ctx kinds).diagnostics := by
  induction kinds generalizing progress with
  | nil => exact List.prefix_refl _
  | cons kind kinds ih => exact (prefix_step ctx kind).trans ih

/-! ### Tokens without problems -/

/-- What is open once a pool is taken in outside a group. -/
def poolScope (progress : Progress σ) : Scope :=
  if progress.scope.isMission then .single { settings := progress.defaults.inherited }
  else progress.scope

theorem reportAll_of_clean {problems : List Diagnostic}
    (clean : (progress.reportAll problems).diagnostics = []) :
    problems = [] ∧ progress.reportAll problems = progress := by
  obtain ⟨-, rfl⟩ := List.append_eq_nil_iff.1 clean
  exact ⟨rfl, by simp [reportAll]⟩

theorem reportIf_of_clean {condition : Bool} {problem : Diagnostic}
    (clean : (progress.reportIf condition problem).diagnostics = []) :
    condition = false ∧ progress.reportIf condition problem = progress := by
  obtain ⟨none, same⟩ := reportAll_of_clean clean
  refine ⟨?_, same⟩
  cases condition
  · rfl
  · cases none

theorem report_not_clean {problem : Diagnostic} : (progress.report problem).diagnostics ≠ [] := by
  simp

theorem fillPool_of_clean [RandomSource σ] {ctx : Context} {pool : PoolText}
    (clean : (progress.fillPool ctx pool).diagnostics = []) :
    0 < pool.count.getD 1 ∧ (pool.resolve ctx progress.source).1.problems = [] ∧
      progress.fillPool ctx pool =
        { progress with
          source := (pool.resolve ctx progress.source).2
          scope := progress.scope.mapDraft fun draft =>
            draft.add (pool.resolve ctx progress.source).1 } := by
  have counted : (progress.reportIf (pool.count.getD 1 = 0) .invalidPoolCount).diagnostics = [] :=
    (List.append_eq_nil_iff.1 clean).1
  obtain ⟨positive, same⟩ := reportIf_of_clean counted
  unfold fillPool at clean ⊢
  dsimp only at clean ⊢
  rw [same] at clean ⊢
  obtain ⟨resolved, kept⟩ := reportAll_of_clean clean
  refine ⟨?_, resolved, ?_⟩
  · simp only [decide_eq_false_iff_not] at positive
    omega
  · rw [kept]
    rfl

/-- A pool without problems fills the open bomb, or one that it opens. -/
theorem addPool_of_clean [RandomSource σ] {ctx : Context} {pool : PoolText}
    (clean : (progress.addPool ctx pool).diagnostics = []) :
    pool.unclosedQuote = false ∧ 0 < pool.count.getD 1 ∧
      (pool.resolve ctx progress.source).1.problems = [] ∧
      (progress.scope = .mission → progress.groupsUsed = false) ∧
      progress.addPool ctx pool =
        { progress with
          source := (pool.resolve ctx progress.source).2
          scope := progress.poolScope.mapDraft fun draft =>
            draft.add (pool.resolve ctx progress.source).1 } := by
  have quoted : (progress.reportIf pool.unclosedQuote .unclosedQuote).diagnostics = [] :=
    List.prefix_nil.1 (clean ▸ prefix_addPool_quote ctx pool)
  -- the quote is reported first, so whatever follows starts from the same progress
  obtain ⟨closed, same⟩ := reportIf_of_clean quoted
  unfold addPool at clean ⊢
  dsimp only at clean ⊢
  rw [same] at clean ⊢
  split at clean
  next outside =>
    rw [if_pos outside]
    split at clean
    · exact absurd clean report_not_clean
    next unused =>
      obtain ⟨positive, resolved, filled⟩ := fillPool_of_clean clean
      refine ⟨closed, positive, resolved, fun _ => by simpa using unused, ?_⟩
      rw [if_neg unused, filled]
      simp only [poolScope, if_pos outside]
  next inside =>
    obtain ⟨positive, resolved, filled⟩ := fillPool_of_clean clean
    refine ⟨closed, positive, resolved, ?_, ?_⟩
    · intro outside
      rw [outside] at inside
      exact absurd rfl inside
    · rw [if_neg inside, filled]
      simp only [poolScope, if_neg inside]

theorem openGroup_of_clean {limits : HostLimits} {copies : Option Nat}
    (clean : (progress.openGroup limits copies).diagnostics = []) :
    progress.scope = .mission ∧ limits.multipleBombs = true ∧ 0 < copies.getD 1 ∧
      progress.openGroup limits copies =
        { progress with
          groupsUsed := true
          scope := .group { settings := .ofGroup progress.defaults } (copies.getD 1) } := by
  have parts : progress.diagnostics = [] ∧ progress.scope.isMission = true ∧
      limits.multipleBombs = true ∧ copies.getD 1 ≠ 0 := by
    simpa [openGroup, and_assoc] using clean
  obtain ⟨before, outside, multiple, positive⟩ := parts
  refine ⟨?_, multiple, Nat.pos_of_ne_zero positive, ?_⟩
  · cases found : progress.scope <;> simp_all [Scope.isMission]
  · simp [openGroup, reportIf, reportAll, outside, multiple, positive]

theorem closeScope_of_clean {limits : HostLimits}
    (clean : (progress.closeScope limits).diagnostics = []) :
    (∃ draft, progress.scope = .single draft ∧ draft.problems limits none = [] ∧
      progress.closeScope limits = { progress with scope := .mission }) ∨
    ∃ draft copies, progress.scope = .group draft copies ∧
      draft.problems limits (some (progress.bombs.length + 1)) = [] ∧
      progress.closeScope limits =
        { progress with
          scope := .mission
          bombs := progress.bombs ++ List.replicate copies (draft.plan progress.defaults) } := by
  cases found : progress.scope with
  | mission =>
    unfold closeScope at clean
    rw [found] at clean
    exact absurd clean report_not_clean
  | single draft =>
    refine .inl ⟨draft, rfl, ?_⟩
    unfold closeScope at clean ⊢
    rw [found] at clean ⊢
    obtain ⟨sound, same⟩ := reportAll_of_clean clean
    dsimp only
    exact ⟨sound, by rw [same]⟩
  | group draft copies =>
    refine .inr ⟨draft, copies, rfl, ?_⟩
    unfold closeScope at clean ⊢
    rw [found] at clean ⊢
    obtain ⟨sound, same⟩ := reportAll_of_clean clean
    dsimp only
    exact ⟨sound, by rw [same]⟩

/-- A text that ends without problems ends in a bomb outside groups or behind a bomb. -/
theorem finish_of_clean {limits : HostLimits} (clean : (progress.finish limits).diagnostics = []) :
    (∃ draft, progress.scope = .single draft ∧ draft.problems limits none = [] ∧
      (progress.finish limits).bombs = progress.bombs ++ [draft.plan progress.defaults]) ∨
    (progress.scope = .mission ∧ progress.bombs ≠ [] ∧
      (progress.finish limits).bombs = progress.bombs) := by
  cases found : progress.scope with
  | mission =>
    unfold finish at clean ⊢
    rw [found] at clean ⊢
    obtain ⟨filled, -⟩ := reportIf_of_clean clean
    exact .inr ⟨rfl, by simpa using filled, rfl⟩
  | single draft =>
    unfold finish at clean ⊢
    rw [found] at clean ⊢
    obtain ⟨sound, -⟩ := reportAll_of_clean clean
    exact .inl ⟨draft, rfl, sound, rfl⟩
  | group draft copies =>
    unfold finish at clean
    rw [found] at clean
    exact absurd clean report_not_clean

/-! ### Runs -/

theorem clean_of_finish [RandomSource σ] {ctx : Context} {kinds : List TokenKind} {source : σ}
    (clean : (readTokens ctx kinds source).diagnostics = []) :
    (run ctx { source } kinds).diagnostics = [] := by
  have grown : (run ctx { source } kinds).diagnostics <+:
      (readTokens ctx kinds source).diagnostics := prefix_finish ctx.limits
  rw [clean] at grown
  exact List.prefix_nil.1 grown

/-- What every token without problems keeps holds after a run without problems. -/
theorem clean_run_induction [RandomSource σ] {ctx : Context}
    {motive : List TokenKind → Progress σ → Prop}
    (keeps : ∀ done kind reached, motive done reached →
      (reached.step ctx kind).diagnostics = [] → motive (done ++ [kind]) (reached.step ctx kind))
    (start : motive [] progress) (kinds : List TokenKind)
    (clean : (progress.run ctx kinds).diagnostics = []) : motive kinds (progress.run ctx kinds) := by
  -- the steps accumulate in front, so the induction is on what is left behind any start
  have general : ∀ kinds done (reached : Progress σ), motive done reached →
      (reached.run ctx kinds).diagnostics = [] → motive (done ++ kinds) (reached.run ctx kinds) := by
    intro kinds
    induction kinds with
    | nil =>
      intro done reached held _
      rw [List.append_nil]
      exact held
    | cons kind kinds ih =>
      intro done reached held clean
      have first : (reached.step ctx kind).diagnostics = [] :=
        List.prefix_nil.1 (clean ▸ prefix_run ctx kinds)
      have rest := ih (done ++ [kind]) (reached.step ctx kind) (keeps done kind reached held first)
        clean
      rwa [List.append_assoc] at rest
  exact general kinds [] progress start clean

end Progress

end BombMission
