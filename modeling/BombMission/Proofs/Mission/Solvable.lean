import BombMission.Proofs.Mission.Compiled
import BombMission.Proofs.Pool.Solvable

/-!
# Solvable modules on compiled bombs

A bomb without a solvable module is refused, but what counts is the flag that each of its pools
carries. A compiled bomb always has a pool with the flag. It has a pool that offers a solvable module
exactly when one of the flagged pools really supplies one.
-/

namespace BombMission

variable {σ : Type} [RandomSource σ]

/-- The pools of a compiled bomb are those of one stretch of settings and pools of the text. One of
these counts as a pool with a solvable module, and the bomb offers a solvable module exactly when one
of them supplies it. -/
theorem compile_offersSolvable_iff {ctx : Context} {text : String} {source : σ} {mission : Mission}
    (made : (compile ctx text source).1 = .ok mission) :
    ∀ bomb ∈ mission.bombs, ∃ body, body <:+: resolveMissionText ctx text source ∧ IsBody body ∧
      bomb.pools = poolsOf body ∧
      (∃ pool resolution, .pool pool resolution ∈ body ∧ resolution.hasSolvable = true) ∧
      (bomb.pools.any (Pool.offersSolvable ctx.catalog) = true ↔
        ∃ pool resolution, .pool pool resolution ∈ body ∧
          pool.SuppliesSolvable ctx resolution) := by
  obtain ⟨clean, -, bombs, -⟩ := bombs_of_compile made
  have shape := readTokens_missionShape clean
  intro bomb member
  rw [bombs] at member
  obtain ⟨plan, planned, rfl⟩ := List.mem_map.1 member
  obtain ⟨body, inside, isBody, read⟩ := shape.exists_body planned
  refine ⟨body, inside, isBody, read.pools, ?_, ?_⟩
  · obtain ⟨token, member, counts⟩ := List.any_eq_true.1 read.hasSolvable
    cases token with
    | pool pool resolution => exact ⟨pool, resolution, member, counts⟩
    | setting | groupOpen | groupClose => cases counts
  · rw [read.pools, poolsOf, List.any_flatMap, List.any_eq_true]
    have supplied : ∀ pool resolution, .pool pool resolution ∈ body →
        (resolution.pools.any (Pool.offersSolvable ctx.catalog) = true ↔
          pool.SuppliesSolvable ctx resolution) := by
      intro pool resolution written
      obtain ⟨before, rfl⟩ := exists_source_of_mem_resolveTokens (inside.mem written)
      exact any_offersSolvable_resolve_iff
    constructor
    · rintro ⟨token, written, offers⟩
      cases token with
      | pool pool resolution => exact ⟨pool, resolution, written, (supplied _ _ written).1 offers⟩
      | setting | groupOpen | groupClose => cases offers
    · rintro ⟨pool, resolution, written, supplies⟩
      exact ⟨_, written, (supplied _ _ written).2 supplies⟩

/-- A pool of two modules draws the needy one. -/
theorem compile_offersSolvable_drawn : ∃ mission,
    (compile {} "1!*Wires,NeedyKnob" (SplitMix.ofSeed 1)).1 = .ok mission ∧
      mission.bombs.map (fun bomb => bomb.pools.any (Pool.offersSolvable .vanilla)) = [false] ∧
      ∀ bomb ∈ mission.bombs, ∃ body, bomb.pools = poolsOf body ∧
        (bomb.pools.any (Pool.offersSolvable .vanilla) = true ↔
          ∃ pool resolution, .pool pool resolution ∈ body ∧
            pool.SuppliesSolvable {} resolution) := by
  have needy : (compile {} "1!*Wires,NeedyKnob" (SplitMix.ofSeed 1)).1.toOption.map
      (fun mission => mission.bombs.map fun bomb =>
        bomb.pools.any (Pool.offersSolvable .vanilla)) = some [false] := by
    decide +kernel
  obtain ⟨mission, found, none⟩ := Option.map_eq_some_iff.1 needy
  have made := eq_ok_of_toOption found
  refine ⟨mission, made, none, ?_⟩
  intro bomb member
  obtain ⟨body, -, -, pools, -, exactly⟩ := compile_offersSolvable_iff made bomb member
  exact ⟨body, pools, exactly⟩

/-- Without mods `ALL_MODS` makes a bomb that no solvable module can stand on. -/
theorem compile_allMods_without_mods : ∃ mission,
    (compile {} "ALL_MODS" (SplitMix.ofSeed 0)).1 = .ok mission ∧
      ∃ bomb ∈ mission.bombs, ∀ pool ∈ bomb.pools, pool.offersSolvable .vanilla = false := by
  have none : (compile {} "ALL_MODS" (SplitMix.ofSeed 0)).1.toOption.map (fun mission =>
      mission.bombs.any fun bomb => bomb.pools.all fun pool => !pool.offersSolvable .vanilla) =
        some true := by
    decide +kernel
  obtain ⟨mission, found, lacking⟩ := Option.map_eq_some_iff.1 none
  refine ⟨mission, eq_ok_of_toOption found, ?_⟩
  simpa using lacking

end BombMission
