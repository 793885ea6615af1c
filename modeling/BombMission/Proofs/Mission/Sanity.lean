import BombMission.Proofs.Mission.Compiled
import BombMission.Proofs.Pool.Resolution

/-!
# Bombs that can be played

Each bound of a compiled bomb is checked at another place: the places of a pool where the pool is
read, limits where they are given, the number of modules where the bomb ends. As long as no problem
was noted all of them hold of every bomb, open or finished. Open bombs and the settings for all
bombs carry what finished bombs need: positive limits, well-formed pools and, once one of the pools
counts as solvable, some pool. From that the limits that follow from the number of places are
positive too.
-/

namespace BombMission

open Text

/-! ### Limits -/

/-- Whether a setting is a limit, which must be at least one. -/
def BombSetting.isLimit : BombSetting → Bool
  | time | strikes => true
  | needyActivationTime | widgets => false

/-- The limits that were given are at least one. -/
def Settings.Positive (settings : Settings) : Prop :=
  ∀ setting, setting.isLimit = true →
    ∀ value, (settings.slot setting).value = some value → 0 < value

theorem positive?_pos {n value : Nat} (given : positive? n = some value) : 0 < value := by
  unfold positive? at given
  split at given
  next positive => rwa [← Option.some.inj given]
  · cases given

theorem timeLimit?_pos {seconds value : Nat} (given : timeLimit? seconds = some value) :
    0 < value := by
  unfold timeLimit? at given
  split at given
  · exact positive?_pos given
  · cases given

theorem TokenKind.assigned_pos {kind : TokenKind} {setting : BombSetting} {value : Nat}
    (assigns : kind.assignment? = some (setting, some value)) (limit : setting.isLimit = true) :
    0 < value := by
  cases kind with
  | time seconds =>
    obtain ⟨rfl, given⟩ := Prod.mk.inj (Option.some.inj assigns)
    exact timeLimit?_pos given
  | strikes strikes =>
    obtain ⟨rfl, given⟩ := Prod.mk.inj (Option.some.inj assigns)
    exact positive?_pos given
  | setting name text =>
    cases name with
    | strikes =>
      obtain ⟨rfl, given⟩ := Prod.mk.inj (Option.some.inj assigns)
      obtain ⟨number, -, positive⟩ := Option.bind_eq_some_iff.1 given
      exact positive?_pos positive
    | needyActivationTime | widgets =>
      obtain ⟨rfl, given⟩ := Prod.mk.inj (Option.some.inj assigns)
      cases limit
    | noPacing | frontOnly | factory | ruleSeed => cases assigns
  | pool | groupOpen | groupClose => cases assigns

namespace Settings.Positive

variable {settings defaults : Settings}

theorem empty : Settings.Positive {} := by
  intro setting limit value given
  cases setting <;> cases given

theorem assign (positive : settings.Positive) {setting : BombSetting} {value : Option Nat}
    (checked : setting.isLimit = true → ∀ limit, value = some limit → 0 < limit) :
    (settings.assign setting value).Positive := by
  intro other limit number given
  rw [Settings.assign, slot_setSlot] at given
  split at given
  next same =>
    subst same
    cases value with
    -- a bad value leaves the limit as it was
    | none => exact positive other limit number given
    | some assigned => exact checked limit number given
  · exact positive other limit number given

theorem after (positive : settings.Positive) (kind : TokenKind) :
    (settings.after kind).Positive := by
  unfold Settings.after
  split
  next setting value assigns =>
    refine positive.assign ?_
    rintro limit number rfl
    exact TokenKind.assigned_pos assigns limit
  · intro setting limit value given
    exact positive setting limit value (by cases setting <;> exact given)
  · exact positive

theorem inherited (positive : defaults.Positive) : defaults.inherited.Positive := by
  intro setting limit value given
  exact positive setting limit value (by cases setting <;> exact given)

theorem ofGroup (defaults : Settings) : (Settings.ofGroup defaults).Positive := by
  intro setting limit value given
  cases setting <;> cases given

theorem valueOr (own : settings.Positive) (positive : defaults.Positive) {setting : BombSetting}
    (limit : setting.isLimit = true) {value : Nat}
    (given : settings.valueOr defaults setting = some value) : 0 < value := by
  unfold Settings.valueOr at given
  cases found : (settings.slot setting).value with
  | none =>
    rw [found] at given
    exact positive setting limit value given
  | some number =>
    rw [found] at given
    exact own setting limit value (found.trans given)

end Settings.Positive

theorem defaultTimeLimit_pos {places : Nat} (some : 0 < places) : 0 < defaultTimeLimit places := by
  have word : 0 < maxWord := by decide
  unfold defaultTimeLimit
  omega

theorem defaultStrikeLimit_pos (places : Nat) : 0 < defaultStrikeLimit places := by
  have word : 0 < maxWord := by decide
  unfold defaultStrikeLimit
  omega

/-! ### Bombs -/

/-- A finished bomb that a host with these limits can play. -/
structure Bomb.Playable (limits : HostLimits) (bomb : Bomb) : Prop where
  pools : ∀ pool ∈ bomb.pools, pool.WellFormed
  modules_pos : 0 < bomb.moduleCount
  modules_le : bomb.moduleCount ≤ limits.maxModules
  time_pos : 0 < bomb.timeLimit
  strikes_pos : 0 < bomb.strikeLimit

/-- An open bomb that becomes a playable one if it ends without problems. -/
structure BombDraft.Sound (draft : BombDraft) : Prop where
  settings : draft.settings.Positive
  pools : ∀ pool ∈ draft.pools, pool.WellFormed
  filled : draft.hasSolvable = true → draft.pools ≠ []

theorem moduleCount_pos {pools : List Pool} (wellFormed : ∀ pool ∈ pools, pool.WellFormed)
    (filled : pools ≠ []) : 0 < moduleCount pools := by
  cases pools with
  | nil => exact absurd rfl filled
  | cons pool pools =>
    have positive := (wellFormed pool (by simp)).count_pos
    rw [moduleCount_cons]
    omega

namespace BombDraft.Sound

variable {draft : BombDraft}

theorem of_settings {settings : Settings} (positive : settings.Positive) :
    BombDraft.Sound { settings } :=
  ⟨positive, by simp, by simp⟩

theorem changeSettings (sound : draft.Sound) (kind : TokenKind) :
    (draft.changeSettings fun settings => settings.after kind).Sound :=
  ⟨sound.settings.after kind, sound.pools, sound.filled⟩

theorem add (sound : draft.Sound) {resolution : Resolution}
    (wellFormed : ∀ pool ∈ resolution.pools, pool.WellFormed) (filled : resolution.pools ≠ []) :
    (draft.add resolution).Sound := by
  refine ⟨sound.settings, ?_, fun _ none => filled (List.append_eq_nil_iff.1 none).2⟩
  intro pool member
  rcases List.mem_append.1 member with old | new
  · exact sound.pools pool old
  · exact wellFormed pool new

theorem plan (sound : draft.Sound) {defaults : Settings} (positive : defaults.Positive)
    {limits : HostLimits} {number : Option Nat} (healthy : draft.problems limits number = []) :
    (draft.plan defaults).bomb.Playable limits := by
  obtain ⟨solvable, fits⟩ := List.append_eq_nil_iff.1 healthy
  have counted : draft.hasSolvable = true := by simpa using solvable
  have room : draft.places ≤ limits.maxModules := by simpa using fits
  have places : 0 < draft.places := moduleCount_pos sound.pools (sound.filled counted)
  refine ⟨sound.pools, places, room, ?_, ?_⟩
  -- a limit is the one that was given, or it follows from the number of places
  · cases given : draft.settings.valueOr defaults .time with
    | none => simpa [BombDraft.plan, given] using defaultTimeLimit_pos places
    | some seconds =>
      simpa [BombDraft.plan, given] using sound.settings.valueOr positive rfl given
  · cases given : draft.settings.valueOr defaults .strikes with
    | none => simpa [BombDraft.plan, given] using defaultStrikeLimit_pos draft.places
    | some limit =>
      simpa [BombDraft.plan, given] using sound.settings.valueOr positive rfl given

end BombDraft.Sound

/-! ### Runs -/

theorem Scope.draft?_mapDraft (scope : Scope) (change : BombDraft → BombDraft) :
    (scope.mapDraft change).draft? = scope.draft?.map change := by
  cases scope <;> rfl

/-- What a change keeps of the open bomb holds of it after the change. -/
theorem Scope.forall_mapDraft {holds : BombDraft → Prop} {scope : Scope}
    {change : BombDraft → BombDraft} (before : ∀ draft, scope.draft? = some draft → holds draft)
    (keeps : ∀ draft, holds draft → holds (change draft)) :
    ∀ draft, (scope.mapDraft change).draft? = some draft → holds draft := by
  intro draft found
  rw [draft?_mapDraft] at found
  obtain ⟨opened, stood, rfl⟩ := Option.map_eq_some_iff.1 found
  exact keeps opened (before opened stood)

namespace Progress

variable {σ : Type} {progress : Progress σ} {ctx : Context}

structure Sound (limits : HostLimits) (progress : Progress σ) : Prop where
  defaults : progress.defaults.Positive
  draft : ∀ draft, progress.scope.draft? = some draft → draft.Sound
  bombs : ∀ plan ∈ progress.bombs, plan.bomb.Playable limits

theorem TakesSetting.sound {kind : TokenKind} {after : Progress σ} {limits : HostLimits}
    (taken : TakesSetting kind progress after) (sound : progress.Sound limits) :
    after.Sound limits := by
  constructor
  · rw [taken.defaults]
    split
    · exact sound.defaults.after kind
    · exact sound.defaults
  · rw [taken.scope]
    exact Scope.forall_mapDraft sound.draft fun draft sound => sound.changeSettings kind
  · rw [taken.bombs]
    exact sound.bombs

theorem Sound.poolScope {limits : HostLimits} (sound : progress.Sound limits) :
    ∀ draft, progress.poolScope.draft? = some draft → draft.Sound := by
  intro draft found
  unfold Progress.poolScope at found
  split at found
  -- a bomb that the pool opens starts with the settings for all bombs
  · rw [← Option.some.inj found]
    exact .of_settings sound.defaults.inherited
  · exact sound.draft draft found

theorem addPool_sound [RandomSource σ] (sound : progress.Sound ctx.limits) {pool : PoolText}
    (clean : (progress.addPool ctx pool).diagnostics = []) :
    (progress.addPool ctx pool).Sound ctx.limits := by
  obtain ⟨-, positive, resolved, -, filled⟩ := addPool_of_clean clean
  rw [filled]
  refine ⟨sound.defaults, Scope.forall_mapDraft sound.poolScope ?_, sound.bombs⟩
  intro draft sound
  exact sound.add (resolvePool_wellFormed positive) (pools_resolvePool_ne_nil positive resolved)

theorem openGroup_sound (sound : progress.Sound ctx.limits) {copies : Option Nat}
    (clean : (progress.openGroup ctx.limits copies).diagnostics = []) :
    (progress.openGroup ctx.limits copies).Sound ctx.limits := by
  obtain ⟨-, -, -, opened⟩ := openGroup_of_clean clean
  rw [opened]
  refine ⟨sound.defaults, ?_, sound.bombs⟩
  intro draft found
  rw [← Option.some.inj found]
  exact .of_settings (.ofGroup progress.defaults)

theorem closeScope_sound (sound : progress.Sound ctx.limits)
    (clean : (progress.closeScope ctx.limits).diagnostics = []) :
    (progress.closeScope ctx.limits).Sound ctx.limits := by
  rcases closeScope_of_clean clean with
    ⟨draft, -, -, closed⟩ | ⟨draft, copies, found, healthy, closed⟩
  · rw [closed]
    exact ⟨sound.defaults, by simp [Scope.draft?], sound.bombs⟩
  · rw [closed]
    refine ⟨sound.defaults, by simp [Scope.draft?], ?_⟩
    intro plan member
    rcases List.mem_append.1 member with old | new
    · exact sound.bombs plan old
    · rw [List.eq_of_mem_replicate new]
      exact (sound.draft draft (by rw [found]; rfl)).plan sound.defaults healthy

/-- One token without problems keeps everything sound. -/
theorem step_sound [RandomSource σ] (sound : progress.Sound ctx.limits) {kind : TokenKind}
    (clean : (progress.step ctx kind).diagnostics = []) :
    (progress.step ctx kind).Sound ctx.limits := by
  cases kind with
  | time | strikes | setting => exact (step_takesSetting ctx rfl).sound sound
  | pool pool => exact addPool_sound sound clean
  | groupOpen copies => exact openGroup_sound sound clean
  | groupClose => exact closeScope_sound sound clean

theorem run_sound [RandomSource σ] (kinds : List TokenKind) (source : σ)
    (clean : (run ctx { source } kinds).diagnostics = []) :
    (run ctx { source } kinds).Sound ctx.limits := by
  refine clean_run_induction (motive := fun _ reached => reached.Sound ctx.limits) ?_ ?_ kinds clean
  · intro done kind reached sound clean
    exact step_sound sound clean
  · exact ⟨.empty, by simp [Scope.draft?], by simp⟩

end Progress

variable {σ : Type} [RandomSource σ]

theorem readTokens_playable {ctx : Context} {kinds : List TokenKind} {source : σ}
    (clean : (readTokens ctx kinds source).diagnostics = []) :
    ∀ plan ∈ (readTokens ctx kinds source).bombs, plan.bomb.Playable ctx.limits := by
  have sound := Progress.run_sound kinds source (Progress.clean_of_finish clean)
  unfold readTokens at clean ⊢
  rcases Progress.finish_of_clean clean with ⟨draft, found, healthy, made⟩ | ⟨-, -, made⟩
  · rw [made]
    intro plan member
    rcases List.mem_append.1 member with old | new
    · exact sound.bombs plan old
    · rw [List.mem_singleton.1 new]
      exact (sound.draft draft (by rw [found]; rfl)).plan sound.defaults healthy
  · rw [made]
    exact sound.bombs

end BombMission
