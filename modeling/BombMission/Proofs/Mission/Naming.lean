import BombMission.Proofs.Mission.Compiled
import BombMission.Proofs.Outline.Reported
import BombMission.Proofs.Pool.Naming

/-!
# Naming modules

Every module that is listed can be asked for by quoting its id, whatever its characters are. The text
of a count and quoted ids is a whole mission: one bomb with one pool of just these modules and with the
limits that follow from its size. Only a bomb without any solvable module makes none.

## Main results

* `readMissionText_of_pool`: what is known behind a text of one pool.
* `compile_quotedText`: the mission that a count and quoted ids make.
-/

namespace BombMission

open Text

variable {σ : Type} [RandomSource σ] {ctx : Context} {text : String} {source : σ}

/-! ### Texts of one pool -/

/-- The bomb of a text that has one pool and nothing else. -/
def loneBomb (resolution : Resolution) : BombDraft :=
  ({ settings := Settings.inherited {} } : BombDraft).add resolution

/-- What a text of one pool comes to: its bomb, checked as every other one. -/
theorem readMissionText_of_pool {pool : PoolText}
    (single : (scanTokens text).map Token.kind = [.pool pool]) :
    readMissionText ctx text source =
      { source := (pool.resolve ctx source).2
        diagnostics := Progress.poolProblems { source } ctx pool ++
          (loneBomb (pool.resolve ctx source).1).problems ctx.limits none
        bombs := [(loneBomb (pool.resolve ctx source).1).plan {}] } := by
  simp only [readMissionText, readTokens, single, Progress.run_cons, Progress.run_nil,
    Progress.step]
  -- there was no group, so the pool opens the bomb that the end of the text finishes
  rw [Progress.addPool_of_accepted rfl]
  rfl

/-- The problems of a bomb with one pool that fits: it may have nothing to solve. -/
theorem problems_loneBomb {resolution : Resolution} {limits : HostLimits}
    (fits : moduleCount resolution.pools ≤ limits.maxModules) :
    (loneBomb resolution).problems limits none =
      if resolution.hasSolvable then [] else [.noSolvableModules none] := by
  have places : (loneBomb resolution).places = moduleCount resolution.pools := rfl
  have solvable : (loneBomb resolution).hasSolvable = resolution.hasSolvable := rfl
  rw [BombDraft.problems, places, solvable, if_neg (Nat.not_lt.2 fits), List.append_nil]

/-- A text of one pool makes a mission when nothing is wrong with it. -/
theorem compile_isOk_of_pool {pool : PoolText}
    (single : (scanTokens text).map Token.kind = [.pool pool]) :
    (∃ mission, (compile ctx text source).1 = .ok mission) ↔
      (readMissionText ctx text source).diagnostics = [] := by
  constructor
  · rintro ⟨mission, made⟩
    exact (bombs_of_compile made).1
  · intro clean
    have bombs : (readMissionText ctx text source).bombs =
        [(loneBomb (pool.resolve ctx source).1).plan {}] := by
      rw [readMissionText_of_pool single]
    have unseeded : (readMissionText ctx text source).ruleSeed.isSome = true →
        ctx.limits.ruleSeed = true := by
      rw [readMissionText_of_pool single]
      intro seeded
      cases seeded
    exact ⟨_, compile_eq_ok_iff.2 ⟨clean, unseeded, _, _, bombs, rfl⟩⟩

theorem bombs_of_pool {pool : PoolText} {mission : Mission}
    (single : (scanTokens text).map Token.kind = [.pool pool])
    (made : (compile ctx text source).1 = .ok mission) :
    mission.bombs = [((loneBomb (pool.resolve ctx source).1).plan {}).bomb] := by
  obtain ⟨-, -, bombs, -⟩ := bombs_of_compile made
  rw [bombs, readMissionText_of_pool single]
  rfl

/-! ### Quoted ids -/

/-- The bomb of one pool with these modules. -/
def namedBomb (count : Nat) (modules : List ModuleRef) : Bomb :=
  { timeLimit := min (120 * count) maxWord
    strikeLimit := max 3 (count / 12)
    needyActivationTime := none
    widgetCount := none
    frontFaceOnly := false
    pools := [{ count, unique := false, content := .explicit modules }] }

/-- What one pool of named modules comes to. -/
def namedResolution (count : Nat) (modules : List ModuleRef) : Resolution :=
  { pools := [{ count, unique := false, content := .explicit modules }]
    hasSolvable := modules.any ModuleRef.isSolvable
    profile := none
    problems := [] }

section Quoted

variable {modules : List ModuleRef} {count : Nat}

/-- A count of up to nine digits leaves the strike limit far below a word. -/
theorem plan_namedResolution (small : count < 1000000000) :
    ((loneBomb (namedResolution count modules)).plan {}).bomb = namedBomb count modules := by
  have places : (loneBomb (namedResolution count modules)).places = count := by
    simp [BombDraft.places, loneBomb, BombDraft.add, namedResolution]
  have strikes : min (max 3 (count / 12)) maxWord = max 3 (count / 12) := by
    simp only [maxWord]
    omega
  simp only [BombDraft.plan, places, defaultTimeLimit, defaultStrikeLimit, strikes]
  rfl

theorem single_quotedText (quotable : AreQuotable (modules.map ModuleRef.id))
    (small : count < 1000000000) :
    (scanTokens (quotedText count (modules.map ModuleRef.id))).map Token.kind =
      [.pool (quotedPool count (modules.map ModuleRef.id))] := by
  rw [scanTokens_quotedText small quotable.plain quotable.nonempty]
  rfl

theorem resolve_quotedPool (quotable : AreQuotable (modules.map ModuleRef.id))
    (known : ∀ m ∈ modules, ctx.catalog.classify m.id = .known m.moduleClass) (source : σ) :
    (quotedPool count (modules.map ModuleRef.id)).resolve ctx source =
      (namedResolution count modules, source) :=
  resolvePool_quotedPool quotable known count source

/-- Nothing is wrong with quoted ids that the catalog knows, unless none of them can be solved. -/
theorem diagnostics_quotedText (quotable : AreQuotable (modules.map ModuleRef.id))
    (known : ∀ m ∈ modules, ctx.catalog.classify m.id = .known m.moduleClass)
    (positive : 1 ≤ count) (fits : count ≤ ctx.limits.maxModules) (small : count < 1000000000) :
    (readMissionText ctx (quotedText count (modules.map ModuleRef.id)) source).diagnostics =
      if modules.any ModuleRef.isSolvable then [] else [.noSolvableModules none] := by
  have placed : moduleCount (namedResolution count modules).pools ≤ ctx.limits.maxModules := by
    simpa [namedResolution] using fits
  have pool : Progress.poolProblems { source } ctx (quotedPool count (modules.map ModuleRef.id)) =
      [] := by
    have counted : ¬ count = 0 := by omega
    have accepts : Progress.acceptsPools { source } = true := rfl
    simp only [Progress.poolProblems, accepts, resolve_quotedPool quotable known]
    simp [quotedPool, namedResolution, counted]
  rw [readMissionText_of_pool (single_quotedText quotable small), pool,
    resolve_quotedPool quotable known, List.nil_append]
  exact problems_loneBomb placed

/-- Modules that the catalog lists can be named by quoting their ids: a count and the quoted ids are
one pool, which comes to these modules and to no problem, and the text makes a mission when one of the
modules can be solved. -/
theorem compile_quotedText (quotable : AreQuotable (modules.map ModuleRef.id))
    (known : ∀ m ∈ modules, ctx.catalog.classify m.id = .known m.moduleClass)
    (positive : 1 ≤ count) (fits : count ≤ ctx.limits.maxModules) (small : count < 1000000000)
    (source : σ) :
    (∃ pool,
      scanTokens (quotedText count (modules.map ModuleRef.id)) =
        [{ kind := .pool pool
           start := 0
           stop := (quotedText count (modules.map ModuleRef.id)).utf8ByteSize
           spelling := quotedText count (modules.map ModuleRef.id) }] ∧
      pool.resolve ctx source = (namedResolution count modules, source)) ∧
    ((∃ mission, (compile ctx (quotedText count (modules.map ModuleRef.id)) source).1 =
        .ok mission) ↔ ∃ m ∈ modules, m.isSolvable = true) ∧
    ∀ mission, (compile ctx (quotedText count (modules.map ModuleRef.id)) source).1 = .ok mission →
      mission.bombs = [namedBomb count modules] := by
  have single := single_quotedText quotable small
  refine ⟨⟨_, scanTokens_quotedText small quotable.plain quotable.nonempty,
    resolve_quotedPool quotable known source⟩, ?_, ?_⟩
  · rw [compile_isOk_of_pool single, diagnostics_quotedText quotable known positive fits small]
    simp
  · intro mission made
    rw [bombs_of_pool single made, resolve_quotedPool quotable known, plan_namedResolution small]

end Quoted

/-- A mod whose id looks like a strike limit and a group with a mark, and a module of the game. -/
def oddModules : List ModuleRef :=
  [{ id := "3X (new)!", moduleClass := ⟨.mod, .solvable⟩ },
   { id := "Wires", moduleClass := ⟨.vanilla, .solvable⟩ }]

theorem areQuotable_oddModules : AreQuotable (oddModules.map ModuleRef.id) := by
  have plain : (oddModules.map ModuleRef.id).all (fun id =>
      id.toList.all fun c => !isQuoteMark c && !isSeparator c) = true := by
    decide
  have ends : (oddModules.map ModuleRef.id).all (fun id =>
      id.toList.head?.all (fun c => !isBlank c) && id.toList.getLast?.all fun c => !isBlank c) =
        true := by
    decide
  simp only [List.all_eq_true, Option.all_eq_true, Bool.and_eq_true, Bool.not_eq_true'] at plain ends
  refine ⟨List.cons_ne_nil _ _, plain, ?_, ?_, ?_, ?_⟩
  · exact fun id member => (ends id member).1
  · exact fun id member => (ends id member).2
  · intro a
    simp [oddModules]
  · rintro id first kind name names
    obtain rfl := Option.some.inj first
    have unnamed : Reference.profileBody? kind "3X (new)!" = none := by
      cases kind <;> decide
    cases unnamed.symm.trans (namesProfile_iff.1 names)

theorem compile_quotedText_odd : ∃ mission,
    (compile { catalog := Catalog.vanilla.addMod .solvable "3X (new)!" "" }
        "5*\"3X (new)!\", \"Wires\"" (SplitMix.ofSeed 0)).1 = .ok mission ∧
      mission.bombs = [namedBomb 5 oddModules] := by
  have known : ∀ m ∈ oddModules,
      (Catalog.vanilla.addMod .solvable "3X (new)!" "").classify m.id = .known m.moduleClass := by
    decide
  have written : quotedText 5 (oddModules.map ModuleRef.id) = "5*\"3X (new)!\", \"Wires\"" := by
    decide +kernel
  have named := @compile_quotedText _ _ { catalog := Catalog.vanilla.addMod .solvable "3X (new)!" "" }
    oddModules 5 areQuotable_oddModules known (by decide) (by decide) (by decide) (SplitMix.ofSeed 0)
  rw [written] at named
  obtain ⟨-, succeeds, bombs⟩ := named
  obtain ⟨mission, made⟩ := succeeds.2 (by decide)
  exact ⟨mission, made, bombs mission made⟩

end BombMission
