import BombMission.Proofs.Outline.Resolved

/-!
# The shape of a mission without problems

A mission text that is read without a problem has one of two shapes. Either it ends in a bomb outside
groups, or it is a sequence of groups with settings between them. In front of both may stand bombs
outside groups that a closing bracket dropped. `PartialShape` is what holds of a part of such a text
read so far, one case for each scope; `step_partialShape` carries it over one token, and
`readTokens_missionShape` reads off the shape of the whole.
-/

namespace BombMission

/-! ### Shapes -/

/-- The tokens of bombs outside groups, each with the bracket that drops it. -/
def droppedTokens (dropped : List (List ResolvedToken)) : List ResolvedToken :=
  dropped.flatMap fun single => single ++ [.groupClose]

/-- A group as it is written, with the settings in front of its bracket. -/
structure WrittenGroup where
  settings : List ResolvedToken
  copies : Option Nat
  body : List ResolvedToken
  deriving DecidableEq, Repr

namespace WrittenGroup

def tokens (group : WrittenGroup) : List ResolvedToken :=
  group.settings ++ .groupOpen group.copies :: (group.body ++ [.groupClose])

def repeats (group : WrittenGroup) : Nat :=
  group.copies.getD 1

/-- No brackets stand inside the brackets of the group, and it makes at least one bomb. -/
structure WellFormed (group : WrittenGroup) : Prop where
  settings : IsSettings group.settings
  body : IsBody group.body
  repeats_pos : 0 < group.repeats

end WrittenGroup

/-- A bomb was read from some tokens: they give its pools and its profiles, and one of them counts as
a pool with a solvable module. -/
structure PlannedBomb.ReadFrom (plan : PlannedBomb) (tokens : List ResolvedToken) : Prop where
  pools : plan.bomb.pools = poolsOf tokens
  profiles : plan.profiles = profilesOf tokens
  hasSolvable : tokens.any ResolvedToken.hasSolvable = true

structure BombDraft.ReadFrom (draft : BombDraft) (tokens : List ResolvedToken) : Prop where
  pools : draft.pools = poolsOf tokens
  profiles : draft.profiles = profilesOf tokens
  hasSolvable : draft.hasSolvable = tokens.any ResolvedToken.hasSolvable

/-- Groups and the bomb that each of them makes. -/
abbrev ReadGroups := List (WrittenGroup × PlannedBomb)

namespace ReadGroups

def tokens (groups : ReadGroups) : List ResolvedToken :=
  groups.flatMap fun group => group.1.tokens

/-- The bombs of the groups, with all their copies. -/
def bombs (groups : ReadGroups) : List PlannedBomb :=
  groups.flatMap fun group => List.replicate group.1.repeats group.2

def Sound (groups : ReadGroups) : Prop :=
  ∀ group ∈ groups, group.1.WellFormed ∧ group.2.ReadFrom group.1.body

end ReadGroups

/-- The shape of a part of a mission text, by what is open behind it. -/
inductive PartialShape {σ : Type} (tokens : List ResolvedToken) (progress : Progress σ) : Prop where
  | mission (dropped : List (List ResolvedToken)) (groups : ReadGroups)
      (settings : List ResolvedToken)
      (whole : tokens = droppedTokens dropped ++ groups.tokens ++ settings)
      (singles : ∀ single ∈ dropped, IsSingle single) (sound : groups.Sound)
      (isSettings : IsSettings settings) (scope : progress.scope = .mission)
      (used : progress.groupsUsed = !groups.isEmpty) (bombs : progress.bombs = groups.bombs)
  | single (dropped : List (List ResolvedToken)) (single : List ResolvedToken) (draft : BombDraft)
      (whole : tokens = droppedTokens dropped ++ single)
      (singles : ∀ single ∈ dropped, IsSingle single) (isSingle : IsSingle single)
      (scope : progress.scope = .single draft) (read : draft.ReadFrom single)
      (unused : progress.groupsUsed = false) (bombs : progress.bombs = [])
  | group (dropped : List (List ResolvedToken)) (groups : ReadGroups) (last : WrittenGroup)
      (draft : BombDraft)
      (whole : tokens =
        droppedTokens dropped ++ groups.tokens ++ last.settings ++
          .groupOpen last.copies :: last.body)
      (singles : ∀ single ∈ dropped, IsSingle single) (sound : groups.Sound)
      (wellFormed : last.WellFormed) (scope : progress.scope = .group draft last.repeats)
      (read : draft.ReadFrom last.body) (used : progress.groupsUsed = true)
      (bombs : progress.bombs = groups.bombs)

/-- The shape of a mission text without problems and the bombs it makes. -/
inductive MissionShape (tokens : List ResolvedToken) (bombs : List PlannedBomb) : Prop where
  | single (dropped : List (List ResolvedToken)) (single : List ResolvedToken) (plan : PlannedBomb)
      (whole : tokens = droppedTokens dropped ++ single)
      (singles : ∀ single ∈ dropped, IsSingle single) (isSingle : IsSingle single)
      (read : plan.ReadFrom single) (made : bombs = [plan])
  | groups (dropped : List (List ResolvedToken)) (groups : ReadGroups)
      (settings : List ResolvedToken)
      (whole : tokens = droppedTokens dropped ++ groups.tokens ++ settings)
      (singles : ∀ single ∈ dropped, IsSingle single) (nonempty : groups ≠ [])
      (sound : groups.Sound) (isSettings : IsSettings settings) (made : bombs = groups.bombs)

/-! ### Adding a token -/

theorem IsSettings.concat {tokens : List ResolvedToken} (isSettings : IsSettings tokens)
    {kind : TokenKind} (isSetting : kind.isSetting = true) :
    IsSettings (tokens ++ [.setting kind isSetting]) := by
  intro token member
  rcases List.mem_append.1 member with before | last
  · exact isSettings token before
  · exact ⟨kind, isSetting, List.mem_singleton.1 last⟩

theorem IsBody.concat_setting {tokens : List ResolvedToken} (isBody : IsBody tokens)
    {kind : TokenKind} (isSetting : kind.isSetting = true) :
    IsBody (tokens ++ [.setting kind isSetting]) := by
  intro token member
  rcases List.mem_append.1 member with before | last
  · exact isBody token before
  · exact .inl ⟨kind, isSetting, List.mem_singleton.1 last⟩

theorem IsBody.concat_pool {tokens : List ResolvedToken} (isBody : IsBody tokens)
    (text : PoolText) (resolution : Resolution) : IsBody (tokens ++ [.pool text resolution]) := by
  intro token member
  rcases List.mem_append.1 member with before | last
  · exact isBody token before
  · exact .inr ⟨text, resolution, List.mem_singleton.1 last⟩

theorem IsSingle.concat_setting {tokens : List ResolvedToken} (isSingle : IsSingle tokens)
    {kind : TokenKind} (isSetting : kind.isSetting = true) :
    IsSingle (tokens ++ [.setting kind isSetting]) := by
  obtain ⟨settings, text, resolution, rest, rfl, isSettings, isBody⟩ := isSingle
  exact ⟨settings, text, resolution, rest ++ [.setting kind isSetting], by simp, isSettings,
    isBody.concat_setting isSetting⟩

theorem IsSingle.concat_pool {tokens : List ResolvedToken} (isSingle : IsSingle tokens)
    (text : PoolText) (resolution : Resolution) :
    IsSingle (tokens ++ [.pool text resolution]) := by
  obtain ⟨settings, first, firstResolution, rest, rfl, isSettings, isBody⟩ := isSingle
  exact ⟨settings, first, firstResolution, rest ++ [.pool text resolution], by simp, isSettings,
    isBody.concat_pool text resolution⟩

/-- The first pool behind settings starts a bomb outside groups. -/
theorem IsSettings.isSingle_concat_pool {settings : List ResolvedToken}
    (isSettings : IsSettings settings) (text : PoolText) (resolution : Resolution) :
    IsSingle (settings ++ [.pool text resolution]) :=
  ⟨settings, text, resolution, [], rfl, isSettings, by simp [IsBody]⟩

theorem IsSingle.isBody {tokens : List ResolvedToken} (isSingle : IsSingle tokens) :
    IsBody tokens := by
  obtain ⟨settings, text, resolution, rest, rfl, isSettings, isBody⟩ := isSingle
  intro token member
  rcases List.mem_append.1 member with before | behind
  · exact .inl (isSettings token before)
  · rcases List.mem_cons.1 behind with rfl | behind
    · exact .inr ⟨text, resolution, rfl⟩
    · exact isBody token behind

namespace BombDraft.ReadFrom

variable {draft : BombDraft} {tokens : List ResolvedToken}

theorem concat_setting (read : draft.ReadFrom tokens) (change : Settings → Settings)
    {kind : TokenKind} (isSetting : kind.isSetting = true) :
    (draft.changeSettings change).ReadFrom (tokens ++ [.setting kind isSetting]) := by
  constructor
  · simp [changeSettings, read.pools, poolsOf, ResolvedToken.pools]
  · simp [changeSettings, read.profiles, profilesOf, ResolvedToken.profile]
  · simp [changeSettings, read.hasSolvable, ResolvedToken.hasSolvable]

theorem concat_pool (read : draft.ReadFrom tokens) (text : PoolText) (resolution : Resolution) :
    (draft.add resolution).ReadFrom (tokens ++ [.pool text resolution]) := by
  constructor
  · simp [add, read.pools, poolsOf, ResolvedToken.pools]
  · cases found : resolution.profile <;>
      simp [add, read.profiles, profilesOf, ResolvedToken.profile, found]
  · simp [add, read.hasSolvable, ResolvedToken.hasSolvable]

theorem plan (read : draft.ReadFrom tokens) {limits : HostLimits} {number : Option Nat}
    (sound : draft.problems limits number = []) (defaults : Settings) :
    (draft.plan defaults).ReadFrom tokens := by
  refine ⟨read.pools, read.profiles, ?_⟩
  obtain ⟨solvable, -⟩ := List.append_eq_nil_iff.1 sound
  rw [← read.hasSolvable]
  cases found : draft.hasSolvable
  · simp [found] at solvable
  · rfl

end BombDraft.ReadFrom

/-- A bomb that just opened was read from settings alone. -/
theorem IsSettings.readFrom {tokens : List ResolvedToken} (isSettings : IsSettings tokens)
    (settings : Settings) : ({ settings } : BombDraft).ReadFrom tokens := by
  have each : ∀ token ∈ tokens, token.pools = [] ∧ token.profile = none ∧
      token.hasSolvable = false := by
    intro token member
    obtain ⟨kind, isSetting, rfl⟩ := isSettings token member
    exact ⟨rfl, rfl, rfl⟩
  constructor
  · exact (List.flatMap_eq_nil_iff.2 fun token member => (each token member).1).symm
  · exact (List.filterMap_eq_nil_iff.2 fun token member => (each token member).2.1).symm
  · symm
    rw [List.any_eq_false]
    intro token member
    simp [(each token member).2.2]

namespace Progress

variable {σ : Type} {progress : Progress σ} {ctx : Context} {tokens : List ResolvedToken}

theorem eq_nil_of_unused {groups : ReadGroups} (used : progress.groupsUsed = !groups.isEmpty)
    (unused : progress.groupsUsed = false) : groups = [] := by
  rw [used] at unused
  simpa using unused

theorem setting_partialShape [RandomSource σ] (shape : PartialShape tokens progress)
    {kind : TokenKind} (isSetting : kind.isSetting = true) :
    PartialShape (tokens ++ [.setting kind isSetting]) (progress.step ctx kind) := by
  have taken : TakesSetting kind progress (progress.step ctx kind) :=
    step_takesSetting ctx isSetting
  cases shape with
  | mission dropped groups settings whole singles sound isSettings scope used bombs =>
    refine .mission dropped groups (settings ++ [.setting kind isSetting]) (by simp [whole]) singles
      sound (isSettings.concat isSetting) ?_ (taken.groupsUsed.trans used) (taken.bombs.trans bombs)
    rw [taken.scope, scope]
    rfl
  | single dropped single draft whole singles isSingle scope read unused bombs =>
    refine .single dropped (single ++ [.setting kind isSetting])
      (draft.changeSettings fun settings => settings.after kind) (by simp [whole]) singles
      (isSingle.concat_setting isSetting) ?_ (read.concat_setting _ isSetting)
      (taken.groupsUsed.trans unused) (taken.bombs.trans bombs)
    rw [taken.scope, scope]
    rfl
  | group dropped groups last draft whole singles sound wellFormed scope read used bombs =>
    refine .group dropped groups { last with body := last.body ++ [.setting kind isSetting] }
      (draft.changeSettings fun settings => settings.after kind) (by simp [whole]) singles sound
      ⟨wellFormed.settings, wellFormed.body.concat_setting isSetting, wellFormed.repeats_pos⟩ ?_
      (read.concat_setting _ isSetting) (taken.groupsUsed.trans used) (taken.bombs.trans bombs)
    rw [taken.scope, scope]
    rfl

theorem pool_partialShape [RandomSource σ] (shape : PartialShape tokens progress) {pool : PoolText}
    (clean : (progress.addPool ctx pool).diagnostics = []) :
    PartialShape (tokens ++ [.pool pool (pool.resolve ctx progress.source).1])
      (progress.addPool ctx pool) := by
  obtain ⟨-, -, -, opens, filled⟩ := addPool_of_clean clean
  rw [filled]
  generalize (pool.resolve ctx progress.source).1 = resolution
  cases shape with
  | mission dropped groups settings whole singles sound isSettings scope used bombs =>
    -- a pool outside groups is accepted only while there was no group
    have unused := opens scope
    obtain rfl := eq_nil_of_unused used unused
    have opened : BombDraft.ReadFrom { settings := progress.defaults.inherited } settings :=
      isSettings.readFrom _
    refine .single dropped (settings ++ [.pool pool resolution]) _ ?_ singles
      (isSettings.isSingle_concat_pool pool resolution) ?_ (opened.concat_pool pool resolution)
      unused bombs
    · simp [whole, ReadGroups.tokens]
    · simp [poolScope, scope, Scope.isMission, Scope.mapDraft]
  | single dropped single draft whole singles isSingle scope read unused bombs =>
    refine .single dropped (single ++ [.pool pool resolution]) (draft.add resolution)
      (by simp [whole]) singles (isSingle.concat_pool pool resolution) ?_
      (read.concat_pool pool resolution) unused bombs
    simp [poolScope, scope, Scope.isMission, Scope.mapDraft]
  | group dropped groups last draft whole singles sound wellFormed scope read used bombs =>
    refine .group dropped groups { last with body := last.body ++ [.pool pool resolution] }
      (draft.add resolution) (by simp [whole]) singles sound
      ⟨wellFormed.settings, wellFormed.body.concat_pool pool resolution, wellFormed.repeats_pos⟩ ?_
      (read.concat_pool pool resolution) used bombs
    simp [poolScope, scope, Scope.isMission, Scope.mapDraft, WrittenGroup.repeats]

theorem open_partialShape (shape : PartialShape tokens progress) {copies : Option Nat}
    (clean : (progress.openGroup ctx.limits copies).diagnostics = []) :
    PartialShape (tokens ++ [.groupOpen copies]) (progress.openGroup ctx.limits copies) := by
  obtain ⟨outside, -, positive, opened⟩ := openGroup_of_clean clean
  rw [opened]
  cases shape with
  | mission dropped groups settings whole singles sound isSettings scope used bombs =>
    have nothing : IsSettings [] := by simp [IsSettings]
    refine .group dropped groups { settings, copies, body := [] } _ (by simp [whole]) singles sound
      ⟨isSettings, by simp [IsBody], positive⟩ rfl (nothing.readFrom _) rfl bombs
  | single dropped single draft whole singles isSingle scope read unused bombs =>
    rw [outside] at scope
    cases scope
  | group dropped groups last draft whole singles sound wellFormed scope read used bombs =>
    rw [outside] at scope
    cases scope

theorem close_partialShape (shape : PartialShape tokens progress)
    (clean : (progress.closeScope ctx.limits).diagnostics = []) :
    PartialShape (tokens ++ [.groupClose]) (progress.closeScope ctx.limits) := by
  cases shape with
  | mission dropped groups settings whole singles sound isSettings scope used bombs =>
    rcases closeScope_of_clean clean with ⟨draft, found, -⟩ | ⟨draft, copies, found, -⟩
    · cases scope.symm.trans found
    · cases scope.symm.trans found
  | single dropped single draft whole singles isSingle scope read unused bombs =>
    rcases closeScope_of_clean clean with
      ⟨closing, found, sound, closed⟩ | ⟨closing, copies, found, -⟩
    -- the bomb is lost, so its tokens join those that were dropped before
    · rw [closed]
      refine .mission (dropped ++ [single]) [] [] ?_ ?_ (by simp [ReadGroups.Sound])
        (by simp [IsSettings]) rfl unused bombs
      · simp [whole, droppedTokens, ReadGroups.tokens]
      · intro other member
        rcases List.mem_append.1 member with before | last
        · exact singles other before
        · rwa [List.mem_singleton.1 last]
    · cases scope.symm.trans found
  | group dropped groups last draft whole singles sound wellFormed scope read used bombs =>
    rcases closeScope_of_clean clean with
      ⟨closing, found, -⟩ | ⟨closing, copies, found, healthy, closed⟩
    · cases scope.symm.trans found
    · rw [scope] at found
      obtain ⟨rfl, rfl⟩ := Scope.group.inj found
      rw [closed]
      refine .mission dropped (groups ++ [(last, draft.plan progress.defaults)]) [] ?_ singles ?_
        (by simp [IsSettings]) rfl (by simp [used]) ?_
      · simp [whole, ReadGroups.tokens, WrittenGroup.tokens]
      · intro group member
        rcases List.mem_append.1 member with before | new
        · exact sound group before
        · rw [List.mem_singleton.1 new]
          exact ⟨wellFormed, read.plan healthy progress.defaults⟩
      · simp [bombs, ReadGroups.bombs]

/-- One token without problems keeps the shape. -/
theorem step_partialShape [RandomSource σ] (shape : PartialShape tokens progress) {kind : TokenKind}
    (clean : (progress.step ctx kind).diagnostics = []) :
    PartialShape (tokens ++ [(resolveToken ctx kind progress.source).1])
      (progress.step ctx kind) := by
  cases kind with
  | time | strikes | setting => exact setting_partialShape shape rfl
  | pool pool => exact pool_partialShape shape clean
  | groupOpen copies => exact open_partialShape shape clean
  | groupClose => exact close_partialShape shape clean

/-- Only pools draw, and without problems every pool does. -/
theorem source_step_of_clean [RandomSource σ] {kind : TokenKind}
    (clean : (progress.step ctx kind).diagnostics = []) :
    (progress.step ctx kind).source = (resolveToken ctx kind progress.source).2 := by
  cases kind with
  | time | strikes | setting => exact (step_takesSetting ctx rfl).source
  | pool pool =>
    obtain ⟨-, -, -, -, filled⟩ := addPool_of_clean clean
    exact congrArg Progress.source filled
  | groupOpen copies => rfl
  | groupClose =>
    change (progress.closeScope ctx.limits).source = progress.source
    unfold closeScope
    split <;> rfl

/-- The shape of the tokens read so far, and the source behind the draws of their pools. -/
theorem run_partialShape [RandomSource σ] (kinds : List TokenKind) (source : σ)
    (clean : (run ctx { source } kinds).diagnostics = []) :
    (run ctx { source } kinds).source = (resolveTokens ctx kinds source).2 ∧
      PartialShape (resolveTokens ctx kinds source).1 (run ctx { source } kinds) := by
  -- the source goes along, since what a pool comes to depends on the draws before it
  refine clean_run_induction (motive := fun done reached =>
    reached.source = (resolveTokens ctx done source).2 ∧
      PartialShape (resolveTokens ctx done source).1 reached) ?_ ?_ kinds clean
  · rintro done kind reached ⟨here, shape⟩ clean
    rw [resolveTokens_concat, ← here]
    exact ⟨source_step_of_clean clean, step_partialShape shape clean⟩
  · refine ⟨rfl, .mission [] [] [] rfl ?_ ?_ ?_ rfl rfl rfl⟩ <;>
      simp [ReadGroups.Sound, IsSettings]

end Progress

/-- A text that is read without a problem has one of the two shapes. -/
theorem readTokens_missionShape {σ : Type} [RandomSource σ] {ctx : Context} {kinds : List TokenKind}
    {source : σ} (clean : (readTokens ctx kinds source).diagnostics = []) :
    MissionShape (resolveTokens ctx kinds source).1 (readTokens ctx kinds source).bombs := by
  have shape := (Progress.run_partialShape kinds source (Progress.clean_of_finish clean)).2
  unfold readTokens at clean ⊢
  cases shape with
  | mission dropped groups settings whole singles sound isSettings scope used bombs =>
    rcases Progress.finish_of_clean clean with ⟨draft, found, -⟩ | ⟨-, filled, made⟩
    · cases scope.symm.trans found
    · refine .groups dropped groups settings whole singles ?_ sound isSettings (made.trans bombs)
      rintro rfl
      exact filled bombs
  | single dropped single draft whole singles isSingle scope read unused bombs =>
    rcases Progress.finish_of_clean clean with ⟨ending, found, healthy, made⟩ | ⟨found, -⟩
    · rw [scope] at found
      obtain rfl := Scope.single.inj found
      exact .single dropped single _ whole singles isSingle (read.plan healthy _)
        (by rw [made, bombs, List.nil_append])
    · cases scope.symm.trans found
  | group dropped groups last draft whole singles sound wellFormed scope read used bombs =>
    rcases Progress.finish_of_clean clean with ⟨ending, found, -⟩ | ⟨found, -⟩
    · cases scope.symm.trans found
    · cases scope.symm.trans found

/-- Every bomb was read from settings and pools that stand together in the text. -/
theorem MissionShape.exists_body {tokens : List ResolvedToken} {plans : List PlannedBomb}
    (shape : MissionShape tokens plans) {plan : PlannedBomb} (planned : plan ∈ plans) :
    ∃ body, body <:+: tokens ∧ IsBody body ∧ plan.ReadFrom body := by
  cases shape with
  | single dropped single only whole singles isSingle read made =>
    rw [made, List.mem_singleton] at planned
    subst planned
    exact ⟨single, ⟨droppedTokens dropped, [], by simp [whole]⟩, isSingle.isBody, read⟩
  | groups dropped groups settings whole singles nonempty sound isSettings made =>
    rw [made] at planned
    obtain ⟨group, member, copied⟩ := List.mem_flatMap.1 planned
    rw [List.eq_of_mem_replicate copied]
    obtain ⟨wellFormed, read⟩ := sound group member
    obtain ⟨before, behind, rfl⟩ := List.append_of_mem member
    refine ⟨group.1.body, ⟨droppedTokens dropped ++ ReadGroups.tokens before ++ group.1.settings ++
      [.groupOpen group.1.copies], .groupClose :: (ReadGroups.tokens behind ++ settings), ?_⟩,
      wellFormed.body, read⟩
    simp [whole, ReadGroups.tokens, WrittenGroup.tokens]

end BombMission
