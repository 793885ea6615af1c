import BombMission.Proofs.Mission.Packing
import BombMission.Proofs.Outline.MissionWide

/-!
# What a mission asks of its host

Several bombs, the factory and rule seeds each need an extension that a host may lack. The first two
are asked for where the text says so; a rule seed is settled only when the mission is made. In the
end a compiled mission asks for nothing that its host does not offer, neither in its text nor in its
settings nor in the markers of its generator setting.

## Main results

* `Progress.run_withinLimits`: every token read without a problem asks for something that is offered,
  or for a rule seed, and the request for that one is remembered.
* `MissionShape.length_eq_one`: without an opening bracket there is one bomb.
* `compile_withinLimits`: a compiled mission keeps to the limits of its host.
-/

namespace BombMission

/-- What a host needs an extension for. -/
inductive Capability where
  | multipleBombs
  | factory
  | ruleSeed
  deriving DecidableEq, Repr

def HostLimits.offers (limits : HostLimits) : Capability → Bool
  | .multipleBombs => limits.multipleBombs
  | .factory => limits.factory
  | .ruleSeed => limits.ruleSeed

/-- What a token asks of the host. -/
def TokenKind.asksFor : TokenKind → Option Capability
  | groupOpen _ => some .multipleBombs
  | setting .factory _ => some .factory
  | setting .ruleSeed _ => some .ruleSeed
  | _ => none

/-- What a pool of a generator setting asks of the host. -/
def PoolContent.asksFor : PoolContent → Option Capability
  | extraBombs | serializedBomb .. => some .multipleBombs
  | factoryMode => some .factory
  | aggregate _ | profile .. | explicit _ => none

/-- A mission asks its host for nothing that it lacks. -/
structure Mission.WithinLimits (limits : HostLimits) (mission : Mission) : Prop where
  bombs : limits.multipleBombs = false → mission.bombs.length = 1
  factoryMode : limits.factory = false → mission.factoryMode = none
  ruleSeed : limits.ruleSeed = false → mission.ruleSeed = none
  markers : ∀ pool ∈ mission.generatorSetting.pools, ∀ capability,
    pool.content.asksFor = some capability → limits.offers capability = true

/-! ### Tokens -/

namespace Progress

variable {σ : Type} {progress : Progress σ} {ctx : Context}

/-- What a reading has made sure of. Whether the host can seed its rules is looked at only once the
mission is made, so until then it is remembered that a seed was asked for. -/
def Grants (limits : HostLimits) (progress : Progress σ) : Capability → Prop
  | .multipleBombs => limits.multipleBombs = true
  | .factory => limits.factory = true
  | .ruleSeed => progress.ruleSeed.isSome = true

/-- Everything that the tokens read so far ask for is granted, and so is the factory mode. -/
structure WithinLimits (limits : HostLimits) (done : List TokenKind) (progress : Progress σ) :
    Prop where
  tokens : ∀ kind ∈ done, ∀ capability, kind.asksFor = some capability →
    progress.Grants limits capability
  factoryMode : progress.factoryMode.isSome = true → limits.factory = true

theorem Grants.step [RandomSource σ] {capability : Capability} {kind : TokenKind}
    (granted : progress.Grants ctx.limits capability)
    (clean : (progress.step ctx kind).diagnostics = []) :
    (progress.step ctx kind).Grants ctx.limits capability := by
  cases capability with
  | multipleBombs | factory => exact granted
  | ruleSeed =>
    by_cases again : ∃ value, kind = .setting .ruleSeed value
    -- a second request would have been a problem
    · obtain ⟨value, rfl⟩ := again
      obtain ⟨-, unasked, -⟩ := setRuleSeed_of_clean clean
      simp [Grants, unasked] at granted
    · have settled := congrArg MissionSettings.ruleSeed (missionSettings_step_of_clean clean)
      have kept : (progress.missionSettings.after kind).ruleSeed = progress.ruleSeed := by
        apply MissionSettings.ruleSeed_after
        intro value same
        exact again ⟨value, same⟩
      exact (congrArg Option.isSome (settled.trans kept)).trans granted

/-- What the token just read asks for is granted, since it was no problem. -/
theorem grants_step_of_asksFor [RandomSource σ] {capability : Capability} {kind : TokenKind}
    (clean : (progress.step ctx kind).diagnostics = []) (asks : kind.asksFor = some capability) :
    (progress.step ctx kind).Grants ctx.limits capability := by
  cases kind with
  | groupOpen copies =>
    obtain rfl := Option.some.inj asks
    exact (openGroup_of_clean clean).2.1
  | setting name value =>
    cases name with
    | factory =>
      obtain rfl := Option.some.inj asks
      exact (setFactory_of_clean clean).2.2.1
    | ruleSeed =>
      obtain rfl := Option.some.inj asks
      obtain ⟨-, -, seed, -, changed⟩ := setRuleSeed_of_clean clean
      exact congrArg (fun reached => reached.ruleSeed.isSome) changed
    | strikes | needyActivationTime | widgets | noPacing | frontOnly => cases asks
  | time | strikes | pool | groupClose => cases asks

theorem WithinLimits.step [RandomSource σ] {done : List TokenKind} {kind : TokenKind}
    (within : progress.WithinLimits ctx.limits done)
    (clean : (progress.step ctx kind).diagnostics = []) :
    (progress.step ctx kind).WithinLimits ctx.limits (done ++ [kind]) := by
  constructor
  · intro asking member capability asks
    rcases List.mem_append.1 member with earlier | last
    · exact (within.tokens asking earlier capability asks).step clean
    · obtain rfl := List.mem_singleton.1 last
      exact grants_step_of_asksFor clean asks
  · intro chosen
    by_cases sets : ∃ value, kind = .setting .factory value
    · obtain ⟨value, rfl⟩ := sets
      exact (setFactory_of_clean clean).2.2.1
    · have settled := congrArg MissionSettings.factoryMode (missionSettings_step_of_clean clean)
      have kept : (progress.missionSettings.after kind).factoryMode = progress.factoryMode := by
        apply MissionSettings.factoryMode_after
        intro value same
        exact sets ⟨value, same⟩
      apply within.factoryMode
      exact (congrArg Option.isSome (settled.trans kept)).symm.trans chosen

theorem run_withinLimits [RandomSource σ] (kinds : List TokenKind) (source : σ)
    (clean : (run ctx { source } kinds).diagnostics = []) :
    (run ctx { source } kinds).WithinLimits ctx.limits kinds := by
  apply clean_run_induction (motive := fun done reached => reached.WithinLimits ctx.limits done)
  · intro done kind reached within clean
    exact within.step clean
  · exact ⟨by simp, by simp⟩
  · exact clean

end Progress

section Texts

variable {σ : Type} [RandomSource σ] {ctx : Context} {kinds : List TokenKind} {source : σ}

theorem readTokens_withinLimits (clean : (readTokens ctx kinds source).diagnostics = []) :
    (readTokens ctx kinds source).WithinLimits ctx.limits kinds := by
  have within := Progress.run_withinLimits kinds source (Progress.clean_of_finish clean)
  have settings : (readTokens ctx kinds source).missionSettings =
      (Progress.run ctx { source } kinds).missionSettings :=
    Progress.missionSettings_finish ctx.limits
  have ruleSeed := congrArg MissionSettings.ruleSeed settings
  have factoryMode := congrArg MissionSettings.factoryMode settings
  constructor
  · intro kind member capability asks
    have granted := within.tokens kind member capability asks
    cases capability with
    | multipleBombs | factory => exact granted
    | ruleSeed => exact (congrArg Option.isSome ruleSeed).trans granted
  · intro chosen
    apply within.factoryMode
    exact (congrArg Option.isSome factoryMode).symm.trans chosen

/-! ### Markers -/

theorem PoolContent.asksFor_of_marker {content : PoolContent} (marker : content.isMarker = true) :
    content.asksFor = some (if content.isFactory then .factory else .multipleBombs) := by
  cases content with
  | aggregate | profile | explicit => cases marker
  | extraBombs | serializedBomb | factoryMode => rfl

/-- The pools of a generator setting ask for several bombs when there are more than the first, and
for the factory when a mode was chosen. -/
theorem generatorSetting_asksFor {first : Bomb} {extra : List Bomb} {mode : Option FactoryMode}
    (plain : ∀ pool ∈ first.pools, pool.content.isMarker = false) {pool : Pool}
    (member : pool ∈ (generatorSetting first extra mode).pools) {capability : Capability}
    (asks : pool.content.asksFor = some capability) :
    (capability = .multipleBombs ∧ extra ≠ []) ∨ (capability = .factory ∧ mode ≠ none) := by
  simp only [generatorSetting, List.mem_append] at member
  rcases member with (own | counted) | factory
  · have unmarked := plain pool own
    cases found : pool.content <;> simp_all [PoolContent.asksFor, PoolContent.isMarker]
  · obtain ⟨marker, bombs⟩ := isMarker_of_mem_extraMarkers counted
    left
    constructor
    · simpa [PoolContent.asksFor_of_marker marker, bombs] using asks.symm
    · rintro rfl
      simp [extraMarkers] at counted
  · obtain ⟨marker, modes⟩ := isFactory_of_mem_factoryMarkers factory
    right
    constructor
    · simpa [PoolContent.asksFor_of_marker marker, modes] using asks.symm
    · rintro rfl
      simp [factoryMarkers] at factory

/-! ### Compiled missions -/

/-- Without an opening bracket a text makes the one bomb it ends with. -/
theorem MissionShape.length_eq_one {tokens : List ResolvedToken} {plans : List PlannedBomb}
    (shape : MissionShape tokens plans)
    (ungrouped : ∀ copies, .groupOpen copies ∉ tokens.map ResolvedToken.kind) :
    plans.length = 1 := by
  cases shape with
  | single dropped single plan whole singles isSingle read made => simp [made]
  | groups dropped groups settings whole singles nonempty sound isSettings made =>
    obtain ⟨group, groups, rfl⟩ := List.exists_cons_of_ne_nil nonempty
    apply absurd _ (ungrouped group.1.copies)
    simp [whole, ReadGroups.tokens, WrittenGroup.tokens, ResolvedToken.kind]

theorem length_bombs_of_ungrouped (clean : (readTokens ctx kinds source).diagnostics = [])
    (ungrouped : ∀ copies, .groupOpen copies ∉ kinds) :
    (readTokens ctx kinds source).bombs.length = 1 := by
  apply (readTokens_missionShape clean).length_eq_one
  rw [map_kind_resolveTokens]
  exact ungrouped

theorem settledRuleSeed_eq_none {text : String} (lacking : ctx.limits.ruleSeed = false) :
    settledRuleSeed ctx text source = none := by
  simp only [settledRuleSeed, settleRuleSeed, lacking]
  split <;> rfl

section Compiled

variable {text : String} {mission : Mission}

/-- Behind a compilation the request for a rule seed that was remembered has met the host. -/
theorem offers_of_asksFor (made : (compile ctx text source).1 = .ok mission) {kind : TokenKind}
    (member : kind ∈ (scanTokens text).map Token.kind) {capability : Capability}
    (asks : kind.asksFor = some capability) : ctx.limits.offers capability = true := by
  obtain ⟨clean, seeded, -⟩ := compile_eq_ok_iff.1 made
  have granted := (readTokens_withinLimits clean).tokens kind member capability asks
  cases capability with
  | multipleBombs | factory => exact granted
  | ruleSeed => exact seeded granted

theorem length_bombs_of_lacking (made : (compile ctx text source).1 = .ok mission)
    (lacking : ctx.limits.multipleBombs = false) : mission.bombs.length = 1 := by
  obtain ⟨clean, -, first, extra, planned, assembled⟩ := compile_eq_ok_iff.1 made
  have counted : (readMissionText ctx text source).bombs.length = 1 := by
    apply length_bombs_of_ungrouped clean
    intro copies member
    have offered : ctx.limits.multipleBombs = true := offers_of_asksFor made member rfl
    simp [lacking] at offered
  simpa [assembled, Outline.mission, planned] using counted

theorem factoryMode_of_lacking (made : (compile ctx text source).1 = .ok mission)
    (lacking : ctx.limits.factory = false) : mission.factoryMode = none := by
  obtain ⟨clean, -, first, extra, -, assembled⟩ := compile_eq_ok_iff.1 made
  have mode : mission.factoryMode = (readMissionText ctx text source).factoryMode := by
    rw [assembled]
    rfl
  by_contra chosen
  have offered := (readTokens_withinLimits clean).factoryMode
    (Option.isSome_iff_ne_none.2 (mode ▸ chosen))
  simp [lacking] at offered

theorem markers_offered (made : (compile ctx text source).1 = .ok mission) {pool : Pool}
    (member : pool ∈ mission.generatorSetting.pools) {capability : Capability}
    (asks : pool.content.asksFor = some capability) : ctx.limits.offers capability = true := by
  obtain ⟨bomb, others, bombs, setting, plain⟩ := generatorSetting_of_compile made
  rw [setting] at member
  rcases generatorSetting_asksFor plain member asks with ⟨rfl, several⟩ | ⟨rfl, chosen⟩
  · by_contra lacking
    have one : mission.bombs.length = 1 :=
      length_bombs_of_lacking made (by simpa [HostLimits.offers] using lacking)
    apply several
    simpa [bombs] using one
  · by_contra lacking
    apply chosen
    exact factoryMode_of_lacking made (by simpa [HostLimits.offers] using lacking)

/-- A compiled mission asks for nothing that its host lacks: no token of its text does, and neither
does the mission that the host is handed. -/
theorem compile_withinLimits (made : (compile ctx text source).1 = .ok mission) :
    (∀ token ∈ scanTokens text, ∀ capability, token.kind.asksFor = some capability →
        ctx.limits.offers capability = true) ∧ mission.WithinLimits ctx.limits := by
  constructor
  · intro token member capability asks
    exact offers_of_asksFor made (List.mem_map_of_mem member) asks
  constructor
  · exact length_bombs_of_lacking made
  · exact factoryMode_of_lacking made
  · intro lacking
    obtain ⟨-, -, first, extra, -, assembled⟩ := compile_eq_ok_iff.1 made
    simp [assembled, Outline.mission, settledRuleSeed_eq_none lacking]
  · intro pool member capability asks
    exact markers_offered made member asks

/-- A host with the factory alone, and a text whose first bomb is dropped. -/
theorem compile_withinLimits_factory : ∃ mission,
    (compile { limits := { multipleBombs := false } } "factory:finite Keypad) 3X Maze"
        (SplitMix.ofSeed 0)).1 = .ok mission ∧
      mission.generatorSetting.pools.length = 2 ∧ mission.bombs.length = 1 ∧
      mission.ruleSeed = none ∧
      ∀ pool ∈ mission.generatorSetting.pools, pool.content.asksFor ≠ some .multipleBombs := by
  have two : (compile { limits := { multipleBombs := false } } "factory:finite Keypad) 3X Maze"
      (SplitMix.ofSeed 0)).1.toOption.map (fun mission => mission.generatorSetting.pools.length) =
        some 2 := by
    decide +kernel
  obtain ⟨mission, found, counted⟩ := Option.map_eq_some_iff.1 two
  have made := eq_ok_of_toOption found
  obtain ⟨-, within⟩ := compile_withinLimits made
  refine ⟨mission, made, counted, within.bombs rfl, within.ruleSeed rfl, ?_⟩
  intro pool member asks
  exact absurd (within.markers pool member .multipleBombs asks) (by decide)

end Compiled

end Texts

end BombMission
