import BombMission.Proofs.Mission.Compiled
import BombMission.Proofs.Pool.Resolution

/-!
# Brackets of compiled missions

A compiled mission may have more closing brackets than opening ones. A closing bracket in front of
all groups ends the bomb that is open there; the bomb is checked, but it is lost, and its pools with
it. This is the only way to lose a pool. Behind such bombs the brackets balance, and every pool
stands on a bomb of the mission.

## Main results

* `Progress.run_pools_ne_nil`: a pool that is read without a problem comes to some descriptor.
* `MissionShape.balanced_kept`: what is left of a text behind its lost bombs.
* `compile_brackets`: the brackets and pools of a compiled mission, and when its text balances.

## Proof strategy

`Balanced` speaks of the depth behind every prefix. It holds of tokens without brackets and of a
group around such tokens, and it is kept when texts are put together, which covers everything behind
the lost bombs. The depth behind these is the number of them below zero.
-/

namespace BombMission

/-! ### Depth -/

/-- How a token changes the number of groups that are open. -/
def TokenKind.depthChange : TokenKind → Int
  | groupOpen _ => 1
  | groupClose => -1
  | time _ | strikes _ | setting .. | pool _ => 0

@[simp] theorem TokenKind.depthChange_groupOpen (copies : Option Nat) :
    (groupOpen copies).depthChange = 1 := rfl

@[simp] theorem TokenKind.depthChange_groupClose : groupClose.depthChange = -1 := rfl

/-- How many more groups some tokens open than they close. -/
def bracketDepth : List TokenKind → Int
  | [] => 0
  | kind :: kinds => kind.depthChange + bracketDepth kinds

/-- Every group is closed before the next one opens, and nothing else is closed. -/
structure Balanced (kinds : List TokenKind) : Prop where
  inside : ∀ before, before <+: kinds → 0 ≤ bracketDepth before ∧ bracketDepth before ≤ 1
  closed : bracketDepth kinds = 0

@[simp] theorem bracketDepth_nil : bracketDepth [] = 0 := rfl

@[simp] theorem bracketDepth_cons (kind : TokenKind) (kinds : List TokenKind) :
    bracketDepth (kind :: kinds) = kind.depthChange + bracketDepth kinds := rfl

@[simp] theorem bracketDepth_append (first second : List TokenKind) :
    bracketDepth (first ++ second) = bracketDepth first + bracketDepth second := by
  induction first with
  | nil => simp
  | cons kind first ih => simp [ih, Int.add_assoc]

theorem bracketDepth_eq_zero {kinds : List TokenKind}
    (bracketless : ∀ kind ∈ kinds, kind.depthChange = 0) : bracketDepth kinds = 0 := by
  induction kinds with
  | nil => rfl
  | cons kind kinds ih =>
    have rest := ih fun other member => bracketless other (List.mem_cons_of_mem _ member)
    rw [bracketDepth_cons, bracketless kind List.mem_cons_self, rest, Int.add_zero]

/-! ### Balanced texts -/

namespace Balanced

theorem of_bracketless {kinds : List TokenKind}
    (bracketless : ∀ kind ∈ kinds, kind.depthChange = 0) : Balanced kinds := by
  refine ⟨?_, bracketDepth_eq_zero bracketless⟩
  intro before isPrefix
  have flat := bracketDepth_eq_zero fun kind member => bracketless kind (isPrefix.subset member)
  omega

theorem append {first second : List TokenKind} (left : Balanced first) (right : Balanced second) :
    Balanced (first ++ second) := by
  constructor
  · rintro before ⟨behind, whole⟩
    rcases List.append_eq_append_iff.1 whole with ⟨rest, ended, -⟩ | ⟨rest, rfl, ended⟩
    · exact left.inside before ⟨rest, ended.symm⟩
    · have depth := right.inside rest ⟨behind, ended.symm⟩
      rwa [bracketDepth_append, left.closed, Int.zero_add]
  · rw [bracketDepth_append, left.closed, right.closed, Int.add_zero]

theorem group (copies : Option Nat) {body : List TokenKind}
    (bracketless : ∀ kind ∈ body, kind.depthChange = 0) :
    Balanced (.groupOpen copies :: (body ++ [.groupClose])) := by
  have whole : bracketDepth (.groupOpen copies :: (body ++ [.groupClose])) = 0 := by
    simp [bracketDepth_eq_zero bracketless]
  refine ⟨?_, whole⟩
  intro before isPrefix
  rcases List.prefix_cons_iff.1 isPrefix with rfl | ⟨rest, rfl, inRest⟩
  · simp
  · rcases List.prefix_concat_iff.1 inRest with rfl | inBody
    · omega
    -- inside the brackets the group is open
    · have flat := bracketDepth_eq_zero fun kind member => bracketless kind (inBody.subset member)
      rw [bracketDepth_cons, TokenKind.depthChange_groupOpen, flat]
      omega

end Balanced

/-! ### Texts without problems -/

theorem IsBody.bracketless {tokens : List ResolvedToken} (isBody : IsBody tokens) :
    ∀ kind ∈ tokens.map ResolvedToken.kind, kind.depthChange = 0 := by
  intro kind member
  obtain ⟨token, written, rfl⟩ := List.mem_map.1 member
  rcases isBody token written with ⟨kind, isSetting, rfl⟩ | ⟨text, resolution, rfl⟩
  · cases kind with
    | time | strikes | setting => rfl
    | pool | groupOpen | groupClose => cases isSetting
  · rfl

theorem IsSettings.isBody {tokens : List ResolvedToken} (isSettings : IsSettings tokens) :
    IsBody tokens := fun token member => .inl (isSettings token member)

theorem IsBody.balanced {tokens : List ResolvedToken} (isBody : IsBody tokens) :
    Balanced (tokens.map ResolvedToken.kind) :=
  .of_bracketless isBody.bracketless

theorem WrittenGroup.WellFormed.balanced {group : WrittenGroup} (wellFormed : group.WellFormed) :
    Balanced (group.tokens.map ResolvedToken.kind) := by
  have brackets := Balanced.group group.copies wellFormed.body.bracketless
  simpa [WrittenGroup.tokens, ResolvedToken.kind] using
    wellFormed.settings.isBody.balanced.append brackets

theorem ReadGroups.Sound.balanced {groups : ReadGroups} (sound : groups.Sound) :
    Balanced (groups.tokens.map ResolvedToken.kind) := by
  induction groups with
  | nil => exact .of_bracketless (by simp [ReadGroups.tokens])
  | cons group groups ih =>
    have first := (sound group List.mem_cons_self).1.balanced
    have rest := ih fun other member => sound other (List.mem_cons_of_mem _ member)
    simpa [ReadGroups.tokens] using first.append rest

/-- Every lost bomb has a bracket that closes no group. -/
theorem bracketDepth_droppedTokens {dropped : List (List ResolvedToken)}
    (singles : ∀ single ∈ dropped, IsSingle single) :
    bracketDepth ((droppedTokens dropped).map ResolvedToken.kind) = -dropped.length := by
  induction dropped with
  | nil => rfl
  | cons single dropped ih =>
    have flat := bracketDepth_eq_zero (singles single List.mem_cons_self).isBody.bracketless
    have rest := ih fun other member => singles other (List.mem_cons_of_mem _ member)
    have cut : droppedTokens (single :: dropped) =
        single ++ .groupClose :: droppedTokens dropped := by
      simp [droppedTokens]
    rw [cut, List.map_append, List.map_cons, bracketDepth_append, bracketDepth_cons, flat, rest,
      ResolvedToken.kind, TokenKind.depthChange_groupClose, List.length_cons]
    omega

/-- The pools stand on the bomb, one behind the other. -/
def Bomb.Holds (bomb : Bomb) (pools : List Pool) : Prop :=
  pools <:+: bomb.pools

/-- Some bomb of the mission holds the pools. -/
def Mission.Holds (mission : Mission) (pools : List Pool) : Prop :=
  ∃ bomb ∈ mission.bombs, bomb.Holds pools

theorem PlannedBomb.ReadFrom.holds {plan : PlannedBomb} {tokens : List ResolvedToken}
    (read : plan.ReadFrom tokens) {token : ResolvedToken} (member : token ∈ tokens) :
    plan.bomb.Holds token.pools := by
  unfold Bomb.Holds
  rw [read.pools]
  exact List.infix_of_mem_flatten (List.mem_map_of_mem member)

/-- Behind the lost bombs the brackets balance, and some bomb holds whatever a token gives. -/
theorem MissionShape.balanced_kept {tokens : List ResolvedToken} {plans : List PlannedBomb}
    (shape : MissionShape tokens plans) : ∃ dropped kept,
    tokens = droppedTokens dropped ++ kept ∧ (∀ single ∈ dropped, IsSingle single) ∧
      Balanced (kept.map ResolvedToken.kind) ∧
      ∀ pool resolution, .pool pool resolution ∈ kept →
        ∃ plan ∈ plans, plan.bomb.Holds resolution.pools := by
  cases shape with
  | single dropped single plan whole singles isSingle read made =>
    refine ⟨dropped, single, whole, singles, isSingle.isBody.balanced, ?_⟩
    intro pool resolution member
    exact ⟨plan, by simp [made], read.holds member⟩
  | groups dropped groups settings whole singles nonempty sound isSettings made =>
    refine ⟨dropped, groups.tokens ++ settings, by simp [whole], singles, ?_, ?_⟩
    · rw [List.map_append]
      exact sound.balanced.append isSettings.isBody.balanced
    · intro pool resolution member
      -- a pool is no setting, so it stands inside the brackets of a group
      have outside : ∀ between, IsSettings between → .pool pool resolution ∉ between := by
        intro between isSettings member
        obtain ⟨kind, isSetting, same⟩ := isSettings _ member
        cases same
      rcases List.mem_append.1 member with grouped | behind
      · obtain ⟨group, written, member⟩ := List.mem_flatMap.1 grouped
        obtain ⟨wellFormed, read⟩ := sound group written
        have inBody : .pool pool resolution ∈ group.1.body := by
          simpa [WrittenGroup.tokens, outside _ wellFormed.settings] using member
        refine ⟨group.2, ?_, read.holds inBody⟩
        rw [made]
        exact List.mem_flatMap.2 ⟨group, written,
          List.mem_replicate.2 ⟨Nat.ne_of_gt wellFormed.repeats_pos, rfl⟩⟩
      · exact absurd behind (outside _ isSettings)

/-! ### Pools without problems -/

section Compiled

variable {σ : Type} [RandomSource σ]

/-- A pool that is read without a problem comes to some descriptor. -/
theorem Progress.run_pools_ne_nil {ctx : Context} (kinds : List TokenKind) (source : σ)
    (clean : (run ctx { source } kinds).diagnostics = []) :
    (run ctx { source } kinds).source = (resolveTokens ctx kinds source).2 ∧
      ∀ pool resolution, .pool pool resolution ∈ (resolveTokens ctx kinds source).1 →
        resolution.pools ≠ [] := by
  refine clean_run_induction (motive := fun done reached =>
    reached.source = (resolveTokens ctx done source).2 ∧
      ∀ pool resolution, .pool pool resolution ∈ (resolveTokens ctx done source).1 →
        resolution.pools ≠ []) ?_ ⟨rfl, by simp [resolveTokens]⟩ kinds clean
  rintro done kind reached ⟨here, given⟩ clean
  rw [resolveTokens_concat, ← here]
  refine ⟨source_step_of_clean clean, ?_⟩
  intro pool resolution member
  rcases List.mem_append.1 member with earlier | last
  · exact given pool resolution earlier
  · cases kind with
    | pool text =>
      obtain ⟨rfl, rfl⟩ := ResolvedToken.pool.inj (List.mem_singleton.1 last)
      obtain ⟨-, positive, resolved, -, -⟩ := addPool_of_clean clean
      exact pools_resolvePool_ne_nil positive resolved
    | time | strikes | setting | groupOpen | groupClose => cases List.mem_singleton.1 last

/-- The text of a compiled mission starts with the bombs that a closing bracket dropped, if there
are any. In the rest every group is closed before the next one opens and nothing else is closed, and
each pool comes to descriptors that stand on a bomb of the mission. So the brackets of the whole
text balance exactly when no bomb was dropped. -/
theorem compile_brackets {ctx : Context} {text : String} {source : σ} {mission : Mission}
    (made : (compile ctx text source).1 = .ok mission) : ∃ dropped kept,
    resolveMissionText ctx text source = droppedTokens dropped ++ kept ∧
      (∀ single ∈ dropped, IsSingle single) ∧
      Balanced (kept.map ResolvedToken.kind) ∧
      (∀ pool resolution, .pool pool resolution ∈ kept →
        resolution.pools ≠ [] ∧ mission.Holds resolution.pools) ∧
      (Balanced ((scanTokens text).map Token.kind) ↔ dropped = []) := by
  obtain ⟨clean, -, bombs, -⟩ := bombs_of_compile made
  have given := (Progress.run_pools_ne_nil ((scanTokens text).map Token.kind) source
    (Progress.clean_of_finish clean)).2
  obtain ⟨dropped, kept, whole, singles, balanced, held⟩ :=
    (readTokens_missionShape clean).balanced_kept
  have kinds : (scanTokens text).map Token.kind =
      (droppedTokens dropped).map ResolvedToken.kind ++ kept.map ResolvedToken.kind := by
    rw [← List.map_append, ← whole, map_kind_resolveTokens]
  refine ⟨dropped, kept, whole, singles, balanced, ?_, ?_⟩
  · intro pool resolution member
    refine ⟨given pool resolution (whole ▸ List.mem_append_right _ member), ?_⟩
    obtain ⟨plan, planned, holds⟩ := held pool resolution member
    exact ⟨plan.bomb, bombs ▸ List.mem_map_of_mem planned, holds⟩
  · rw [kinds]
    constructor
    · intro all
      have depth := all.closed
      rw [bracketDepth_append, bracketDepth_droppedTokens singles, balanced.closed] at depth
      exact List.eq_nil_of_length_eq_zero (by omega)
    · rintro rfl
      simpa [droppedTokens] using balanced

end Compiled

/-- The bracket behind `Keypad` closes no group, and the two bombs behind it keep their pools. -/
theorem compile_brackets_dropped : ∃ mission,
    (compile {} "Keypad) 4X 2*(Wires 2*ALL_VANILLA) 5:00" (SplitMix.ofSeed 0)).1 = .ok mission ∧
      ∃ dropped kept,
        resolveMissionText {} "Keypad) 4X 2*(Wires 2*ALL_VANILLA) 5:00" (SplitMix.ofSeed 0) =
          droppedTokens dropped ++ kept ∧
        dropped ≠ [] ∧ Balanced (kept.map ResolvedToken.kind) ∧
        ∀ pool resolution, .pool pool resolution ∈ kept → mission.Holds resolution.pools := by
  have bombs : (compile {} "Keypad) 4X 2*(Wires 2*ALL_VANILLA) 5:00"
      (SplitMix.ofSeed 0)).1.toOption.map (fun mission => mission.bombs.length) = some 2 := by
    decide +kernel
  obtain ⟨mission, found, -⟩ := Option.map_eq_some_iff.1 bombs
  have made := eq_ok_of_toOption found
  obtain ⟨dropped, kept, whole, -, balanced, held, exactly⟩ := compile_brackets made
  have depth : bracketDepth ((scanTokens "Keypad) 4X 2*(Wires 2*ALL_VANILLA) 5:00").map
      Token.kind) = -1 := by
    decide +kernel
  refine ⟨mission, made, dropped, kept, whole, ?_, balanced, fun pool resolution member =>
    (held pool resolution member).2⟩
  intro none
  have closed := (exactly.2 none).closed
  omega

/-- A closing bracket in front of all groups loses the bomb before it and its pool. -/
theorem compile_drops_bomb : ∃ mission,
    (compile {} "Keypad) Wires" (SplitMix.ofSeed 0)).1 = .ok mission ∧
      ¬ Balanced ((scanTokens "Keypad) Wires").map Token.kind) ∧
      ∃ pool resolution,
        .pool pool resolution ∈ resolveMissionText {} "Keypad) Wires" (SplitMix.ofSeed 0) ∧
        resolution.pools ≠ [] ∧ ¬ mission.Holds resolution.pools := by
  have lost : (compile {} "Keypad) Wires" (SplitMix.ofSeed 0)).1.toOption.map (fun mission =>
      (resolveMissionText {} "Keypad) Wires" (SplitMix.ofSeed 0)).any fun token =>
        !token.pools.isEmpty &&
          !mission.bombs.any fun bomb => decide (token.pools <:+: bomb.pools)) = some true := by
    decide +kernel
  obtain ⟨mission, found, lacking⟩ := Option.map_eq_some_iff.1 lost
  have depth : bracketDepth ((scanTokens "Keypad) Wires").map Token.kind) = -1 := by
    decide +kernel
  refine ⟨mission, eq_ok_of_toOption found, fun balanced => ?_, ?_⟩
  · have closed := balanced.closed
    omega
  · obtain ⟨token, written, given⟩ := List.any_eq_true.1 lacking
    simp only [Bool.and_eq_true, Bool.not_eq_true', List.isEmpty_eq_false_iff, List.any_eq_false,
      decide_eq_true_eq] at given
    obtain ⟨nonempty, nowhere⟩ := given
    cases token with
    | pool pool resolution =>
      exact ⟨pool, resolution, written, nonempty, fun ⟨bomb, member, held⟩ =>
        nowhere bomb member held⟩
    | setting | groupOpen | groupClose => exact absurd rfl nonempty

end BombMission
