import BombMission.Proofs.Outline.Groups
import BombMission.Proofs.Outline.Reported
import Mathlib.Data.List.Induction

/-!
# Where tokens stand

What a token does depends on what is open in front of it, and that can be told from the brackets
alone: a group is open when the last bracket opened one, and once there was a group a pool needs an
open one. This holds of all tokens, however many problems they have.

## Main results

* `Progress.run_stands`: what is open behind some tokens, whether a bomb outside groups may be.
* `Progress.acceptsPools_run`, `Progress.isGroup_run`: the two questions about places that the
  reading asks.
-/

namespace BombMission

/-! ### Places -/

def TokenKind.isGroupOpen : TokenKind → Bool
  | groupOpen _ => true
  | time _ | strikes _ | setting .. | pool _ | groupClose => false

/-- Whether a group is open behind some tokens: the last bracket among them opens one. -/
def insideGroup (kinds : List TokenKind) : Bool :=
  (kinds.filter TokenKind.isBracket).getLast?.any TokenKind.isGroupOpen

/-- Whether a pool behind some tokens is refused: there was a group, and none is open. -/
def refusesPools (kinds : List TokenKind) : Bool :=
  kinds.any TokenKind.isGroupOpen && !insideGroup kinds

/-- The tokens among some behind `before` in whose places a condition holds. A place is given by the
tokens in front of it. -/
def standingFrom (holds : List TokenKind → Bool) (before : List TokenKind) :
    List TokenKind → List TokenKind
  | [] => []
  | kind :: kinds =>
    (if holds before then [kind] else []) ++ standingFrom holds (before ++ [kind]) kinds

/-- The tokens of a text in whose places a condition holds. -/
def standing (holds : List TokenKind → Bool) (kinds : List TokenKind) : List TokenKind :=
  standingFrom holds [] kinds

theorem any_isGroupOpen_iff {kinds : List TokenKind} :
    kinds.any TokenKind.isGroupOpen = true ↔ ∃ copies, .groupOpen copies ∈ kinds := by
  rw [List.any_eq_true]
  constructor
  · rintro ⟨kind, member, opens⟩
    cases kind with
    | groupOpen copies => exact ⟨copies, member⟩
    | time | strikes | setting | pool | groupClose => cases opens
  · rintro ⟨copies, member⟩
    exact ⟨_, member, rfl⟩

theorem insideGroup_concat (kinds : List TokenKind) (kind : TokenKind) :
    insideGroup (kinds ++ [kind]) =
      if kind.isBracket then kind.isGroupOpen else insideGroup kinds := by
  by_cases bracket : kind.isBracket = true
  · simp [insideGroup, bracket]
  · simp [insideGroup, bracket]

theorem standingFrom_concat (holds : List TokenKind → Bool) (before kinds : List TokenKind)
    (kind : TokenKind) :
    standingFrom holds before (kinds ++ [kind]) =
      standingFrom holds before kinds ++ if holds (before ++ kinds) then [kind] else [] := by
  induction kinds generalizing before with
  | nil => simp [standingFrom]
  | cons first kinds ih => simp [standingFrom, ih]

theorem standing_concat (holds : List TokenKind → Bool) (kinds : List TokenKind)
    (kind : TokenKind) :
    standing holds (kinds ++ [kind]) =
      standing holds kinds ++ if holds kinds then [kind] else [] :=
  standingFrom_concat holds [] kinds kind

/-! ### What is open -/

namespace Scope

variable (scope : Scope) (change : BombDraft → BombDraft)

@[simp] theorem isGroup_mapDraft : (scope.mapDraft change).isGroup = scope.isGroup := by
  cases scope <;> rfl

@[simp] theorem isMission_mapDraft : (scope.mapDraft change).isMission = scope.isMission := by
  cases scope <;> rfl

theorem isMission_eq_true_iff {scope : Scope} : scope.isMission = true ↔ scope = .mission := by
  cases scope <;> simp [isMission]

end Scope

namespace Progress

variable {σ : Type} {progress : Progress σ}

theorem run_concat [RandomSource σ] (ctx : Context) (kinds : List TokenKind) (kind : TokenKind) :
    progress.run ctx (kinds ++ [kind]) = (progress.run ctx kinds).step ctx kind :=
  run_append ctx progress kinds [kind]

@[simp] theorem scope_closeScope (limits : HostLimits) :
    (progress.closeScope limits).scope = .mission := by
  unfold closeScope
  cases found : progress.scope with
  | mission => exact found
  | single | group => rfl

@[simp] theorem groupsUsed_closeScope (limits : HostLimits) :
    (progress.closeScope limits).groupsUsed = progress.groupsUsed := by
  unfold closeScope
  cases progress.scope <;> rfl

@[simp] theorem defaults_closeScope (limits : HostLimits) :
    (progress.closeScope limits).defaults = progress.defaults := by
  unfold closeScope
  cases progress.scope <;> rfl

/-- What is open behind some tokens is as their brackets say. -/
structure Stands (before : List TokenKind) (progress : Progress σ) : Prop where
  groupsUsed : progress.groupsUsed = before.any TokenKind.isGroupOpen
  inside : progress.scope.isGroup = insideGroup before
  /-- Behind a group no bomb stands outside groups. -/
  outside : progress.groupsUsed = true → progress.scope.isMission = !progress.scope.isGroup

/-- A token that is no bracket moves nothing that the brackets speak of. -/
theorem Stands.carry {before : List TokenKind} {after : Progress σ} {kind : TokenKind}
    (stands : progress.Stands before) (plain : kind.isBracket = false)
    (groupsUsed : after.groupsUsed = progress.groupsUsed)
    (inside : after.scope.isGroup = progress.scope.isGroup)
    (outside : progress.groupsUsed = true → after.scope.isMission = progress.scope.isMission) :
    after.Stands (before ++ [kind]) := by
  have notOpening : kind.isGroupOpen = false := by
    cases kind with
    | groupOpen => cases plain
    | time | strikes | setting | pool | groupClose => rfl
  refine ⟨?_, ?_, ?_⟩
  · simp [groupsUsed, stands.groupsUsed, notOpening]
  · simp [inside, stands.inside, insideGroup_concat, plain]
  · intro used
    rw [groupsUsed] at used
    rw [outside used, inside, stands.outside used]

theorem TakesSetting.stands {before : List TokenKind} {after : Progress σ} {kind : TokenKind}
    (taken : TakesSetting kind progress after) (isSetting : kind.isSetting = true)
    (stands : progress.Stands before) : after.Stands (before ++ [kind]) := by
  have plain : kind.isBracket = false := by
    cases kind with
    | time | strikes | setting => rfl
    | pool | groupOpen | groupClose => cases isSetting
  refine stands.carry plain taken.groupsUsed ?_ fun _ => ?_
  · rw [taken.scope, Scope.isGroup_mapDraft]
  · rw [taken.scope, Scope.isMission_mapDraft]

variable [RandomSource σ] {ctx : Context}

theorem Stands.addPool {before : List TokenKind} (stands : progress.Stands before)
    (pool : PoolText) : (progress.addPool ctx pool).Stands (before ++ [.pool pool]) := by
  cases accepts : progress.acceptsPools with
  | false =>
    rw [addPool_of_refused accepts]
    exact stands.carry rfl rfl rfl fun _ => rfl
  | true =>
    rw [addPool_of_accepted accepts]
    -- a pool outside bombs opens one that is in no group, and there was no group before
    have opened : progress.poolScope.isGroup = progress.scope.isGroup ∧
        (progress.groupsUsed = true → progress.poolScope = progress.scope) := by
      unfold poolScope
      cases found : progress.scope <;> simp_all [acceptsPools, Scope.isMission, Scope.isGroup]
    refine stands.carry rfl rfl ?_ fun used => ?_
    · rw [Scope.isGroup_mapDraft, opened.1]
    · rw [Scope.isMission_mapDraft, opened.2 used]

theorem Stands.step {before : List TokenKind} (stands : progress.Stands before)
    (kind : TokenKind) : (progress.step ctx kind).Stands (before ++ [kind]) := by
  cases kind with
  | time | strikes | setting => exact (step_takesSetting ctx rfl).stands rfl stands
  | pool pool => exact stands.addPool pool
  | groupOpen copies =>
    refine ⟨?_, ?_, fun _ => rfl⟩
    · simp [Progress.step, openGroup, TokenKind.isGroupOpen]
    · rw [insideGroup_concat]
      rfl
  | groupClose =>
    change (progress.closeScope ctx.limits).Stands (before ++ [.groupClose])
    refine ⟨?_, ?_, ?_⟩
    · simp [stands.groupsUsed, TokenKind.isGroupOpen]
    · rw [scope_closeScope, insideGroup_concat]
      rfl
    · rw [scope_closeScope]
      exact fun _ => rfl

theorem run_stands (ctx : Context) (kinds : List TokenKind) (source : σ) :
    (run ctx { source } kinds).Stands kinds := by
  -- tokens come in at the end, so the induction takes them off there
  induction kinds using List.reverseRecOn with
  | nil => exact ⟨rfl, rfl, fun used => Bool.noConfusion used⟩
  | append_singleton kinds kind ih =>
    rw [run_concat]
    exact ih.step kind

/-- A pool is refused when there was a group and none is open. -/
theorem acceptsPools_run (ctx : Context) (kinds : List TokenKind) (source : σ) :
    (run ctx { source } kinds).acceptsPools = !refusesPools kinds := by
  have stands := run_stands ctx kinds source
  unfold acceptsPools refusesPools
  rw [← stands.groupsUsed, ← stands.inside]
  cases used : (run ctx { source } kinds).groupsUsed with
  | false => simp
  | true => rw [stands.outside used, Bool.and_true, Bool.true_and]

theorem isGroup_run (ctx : Context) (kinds : List TokenKind) (source : σ) :
    (run ctx { source } kinds).scope.isGroup = insideGroup kinds :=
  (run_stands ctx kinds source).inside

end Progress

end BombMission
