import BombMission.Proofs.Mission.Sanity
import BombMission.Proofs.Outline.Place
import BombMission.Proofs.Outline.Standing

/-!
# Readings of any text

What is known after some tokens hangs together, however many problems the tokens have. Brackets alone
say which scopes can be open and how many bombs there are, no pool of a bomb is a marker, and a limit
that is kept somewhere is at least one. As long as there is no problem the bombs are moreover such as
a host can play.

## Main results

* `Progress.step_steady`: one token, good or bad, keeps the limits and the pools in order.
* `Progress.run_counts`: bombs are made by closed groups only, as many as these ask for.
* `Progress.run_wellFormed`: all that holds behind the tokens of any text.

## Proof strategy

Where a scope may be open follows from `Progress.run_stands`, and what holds without problems from
`Progress.run_sound`. The two invariants of this module ask for neither, so that each token keeps them
by itself.
-/

namespace BombMission

/-! ### Pools -/

/-- None of the pools is a marker. -/
def Unmarked (pools : List Pool) : Prop :=
  ∀ pool ∈ pools, pool.content.isMarker = false

theorem Unmarked.append {first second : List Pool} (unmarked : Unmarked first)
    (behind : Unmarked second) : Unmarked (first ++ second) := by
  intro pool member
  rcases List.mem_append.1 member with inFirst | inSecond
  · exact unmarked pool inFirst
  · exact behind pool inSecond

/-- A pool comes to no marker, even when it has no places. -/
theorem resolvePool_unmarked {σ : Type} [RandomSource σ] (ctx : Context) (body : String)
    (count : Nat) (unique : Bool) (source : σ) :
    Unmarked (resolvePool ctx body count unique source).1.pools := by
  intro pool member
  cases unique with
  | false =>
    rw [pools_resolvePool_plain, List.mem_singleton] at member
    subst member
    exact Reference.isMarker_content _
  | true =>
    rw [pools_resolvePool_unique] at member
    obtain ⟨m, -, rfl⟩ := List.mem_map.1 member
    rfl

/-! ### Limits and pools -/

/-- An open bomb whose limits are at least one and whose pools are no markers. -/
structure BombDraft.Steady (draft : BombDraft) : Prop where
  limits : draft.settings.Positive
  unmarked : Unmarked draft.pools

namespace BombDraft.Steady

theorem of_settings {settings : Settings} (positive : settings.Positive) :
    BombDraft.Steady { settings } :=
  ⟨positive, by simp [Unmarked]⟩

theorem changeSettings {draft : BombDraft} (steady : draft.Steady) (kind : TokenKind) :
    (draft.changeSettings fun settings => settings.after kind).Steady :=
  ⟨steady.limits.after kind, steady.unmarked⟩

theorem add {draft : BombDraft} (steady : draft.Steady) {resolution : Resolution}
    (unmarked : Unmarked resolution.pools) : (draft.add resolution).Steady :=
  ⟨steady.limits, steady.unmarked.append unmarked⟩

end BombDraft.Steady

namespace Progress

variable {σ : Type} {progress : Progress σ} {ctx : Context}

/-- What every token keeps, whatever problem it has. -/
structure Steady (progress : Progress σ) : Prop where
  defaults : progress.defaults.Positive
  draft : ∀ draft, progress.scope.draft? = some draft → draft.Steady
  bombs : ∀ plan ∈ progress.bombs, Unmarked plan.bomb.pools

theorem TakesSetting.steady {kind : TokenKind} {after : Progress σ}
    (taken : TakesSetting kind progress after) (steady : progress.Steady) : after.Steady := by
  constructor
  · rw [taken.defaults]
    split
    · exact steady.defaults.after kind
    · exact steady.defaults
  · rw [taken.scope]
    exact Scope.forall_mapDraft steady.draft fun draft steady => steady.changeSettings kind
  · rw [taken.bombs]
    exact steady.bombs

theorem Steady.poolScope (steady : progress.Steady) :
    ∀ draft, progress.poolScope.draft? = some draft → draft.Steady := by
  intro draft found
  unfold Progress.poolScope at found
  split at found
  · rw [← Option.some.inj found]
    exact .of_settings steady.defaults.inherited
  · exact steady.draft draft found

theorem Steady.addPool [RandomSource σ] (steady : progress.Steady) (pool : PoolText) :
    (progress.addPool ctx pool).Steady := by
  cases accepts : progress.acceptsPools with
  | false =>
    rw [addPool_of_refused accepts]
    exact ⟨steady.defaults, steady.draft, steady.bombs⟩
  | true =>
    rw [addPool_of_accepted accepts]
    refine ⟨steady.defaults, Scope.forall_mapDraft steady.poolScope ?_, steady.bombs⟩
    intro draft steady
    exact steady.add (resolvePool_unmarked ctx pool.body _ pool.unique progress.source)

theorem Steady.openGroup (steady : progress.Steady) (limits : HostLimits) (copies : Option Nat) :
    (progress.openGroup limits copies).Steady := by
  refine ⟨steady.defaults, ?_, steady.bombs⟩
  -- whatever was open is dropped, and the group has nothing of its own yet
  intro draft found
  rw [← Option.some.inj found]
  exact .of_settings (.ofGroup progress.defaults)

theorem Steady.closeScope (steady : progress.Steady) (limits : HostLimits) :
    (progress.closeScope limits).Steady := by
  refine ⟨?_, ?_, ?_⟩
  · rw [defaults_closeScope]
    exact steady.defaults
  · rw [scope_closeScope]
    simp [Scope.draft?]
  · intro plan member
    unfold Progress.closeScope at member
    cases found : progress.scope with
    | mission | single =>
      rw [found] at member
      exact steady.bombs plan member
    | group draft copies =>
      rw [found] at member
      rcases List.mem_append.1 member with old | new
      · exact steady.bombs plan old
      · rw [List.eq_of_mem_replicate new]
        exact (steady.draft draft (by rw [found]; rfl)).unmarked

/-- A token keeps the limits and the pools in order, in every scope. -/
theorem step_steady [RandomSource σ] (steady : progress.Steady) (kind : TokenKind) :
    (progress.step ctx kind).Steady := by
  cases kind with
  | time | strikes | setting => exact (step_takesSetting ctx rfl).steady steady
  | pool pool => exact steady.addPool pool
  | groupOpen copies => exact steady.openGroup ctx.limits copies
  | groupClose => exact steady.closeScope ctx.limits

theorem run_steady [RandomSource σ] (ctx : Context) (kinds : List TokenKind) (source : σ) :
    (run ctx { source } kinds).Steady := by
  induction kinds using List.reverseRecOn with
  | nil => exact ⟨.empty, by simp [Scope.draft?], by simp⟩
  | append_singleton kinds kind ih =>
    rw [run_concat]
    exact step_steady ih kind

end Progress

/-! ### Numbers of bombs -/

/-- The copies that the open group asks for. -/
def Scope.copies? : Scope → Option Nat
  | group _ copies => some copies
  | mission | single _ => none

def OpenPlace.copies? : OpenPlace → Option Nat
  | group _ copies => some copies
  | mission | single _ => none

@[simp] theorem Scope.copies?_mapDraft (scope : Scope) (change : BombDraft → BombDraft) :
    (scope.mapDraft change).copies? = scope.copies? := by
  cases scope <;> rfl

@[simp] theorem OpenPlace.copies?_add (opened : OpenPlace) (kind : TokenKind) :
    (opened.add kind).copies? = opened.copies? := by
  cases opened <;> rfl

namespace PlaceScan

theorem copies?_opens_pool (scan : PlaceScan) (pool : PoolText) :
    (scan.opens (.pool pool)).copies? = scan.opened.copies? := by
  unfold opens
  cases found : scan.opened <;> rfl

theorem length_closes_groupClose (scan : PlaceScan) :
    (scan.closes .groupClose).length = scan.opened.copies?.getD 0 := by
  unfold closes
  cases found : scan.opened <;> simp [OpenPlace.copies?]

end PlaceScan

namespace Progress

variable {σ : Type} {progress : Progress σ} {scan : PlaceScan} {ctx : Context}

/-- A reading has as many bombs as the closed groups of the text have places. A pool that is refused
has a place outside groups, so only what is open as a group is compared. -/
structure Counts (scan : PlaceScan) (progress : Progress σ) : Prop where
  bombs : progress.bombs.length = scan.finished.length
  copies : progress.scope.copies? = scan.opened.copies?

theorem TakesSetting.counts {kind : TokenKind} {after : Progress σ}
    (taken : TakesSetting kind progress after) (isSetting : kind.isSetting = true)
    (counts : progress.Counts scan) : after.Counts (scan.step kind) := by
  rw [PlaceScan.step_of_isSetting isSetting]
  refine ⟨?_, ?_⟩
  · rw [taken.bombs]
    exact counts.bombs
  · rw [taken.scope, Scope.copies?_mapDraft, OpenPlace.copies?_add]
    exact counts.copies

theorem Counts.addPool [RandomSource σ] (counts : progress.Counts scan) (pool : PoolText) :
    (progress.addPool ctx pool).Counts (scan.step (.pool pool)) := by
  have finished : (scan.step (.pool pool)).finished = scan.finished := List.append_nil _
  have copies : (scan.step (.pool pool)).opened.copies? = scan.opened.copies? :=
    scan.copies?_opens_pool pool
  have opened : progress.poolScope.copies? = progress.scope.copies? := by
    unfold poolScope
    cases progress.scope <;> rfl
  cases accepts : progress.acceptsPools with
  | false =>
    rw [addPool_of_refused accepts]
    exact ⟨finished ▸ counts.bombs, copies ▸ counts.copies⟩
  | true =>
    rw [addPool_of_accepted accepts]
    refine ⟨finished ▸ counts.bombs, ?_⟩
    rw [Scope.copies?_mapDraft, opened, copies]
    exact counts.copies

theorem Counts.closeScope (counts : progress.Counts scan) (limits : HostLimits) :
    (progress.closeScope limits).Counts (scan.step .groupClose) := by
  have finished : (scan.step .groupClose).finished.length =
      scan.finished.length + progress.scope.copies?.getD 0 := by
    rw [counts.copies, ← scan.length_closes_groupClose]
    exact List.length_append
  refine ⟨?_, ?_⟩
  · rw [finished, ← counts.bombs]
    unfold Progress.closeScope
    cases found : progress.scope <;> simp [Scope.copies?, report, reportAll]
  · rw [scope_closeScope]
    rfl

theorem Counts.step [RandomSource σ] (counts : progress.Counts scan) (kind : TokenKind) :
    (progress.step ctx kind).Counts (scan.step kind) := by
  cases kind with
  | time | strikes | setting => exact (step_takesSetting ctx rfl).counts rfl counts
  | pool pool => exact counts.addPool pool
  | groupOpen copies =>
    have finished : (scan.step (.groupOpen copies)).finished = scan.finished := List.append_nil _
    exact ⟨finished ▸ counts.bombs, rfl⟩
  | groupClose => exact counts.closeScope ctx.limits

theorem run_counts [RandomSource σ] (ctx : Context) (kinds : List TokenKind) (source : σ) :
    (run ctx { source } kinds).Counts (PlaceScan.run kinds) := by
  induction kinds using List.reverseRecOn with
  | nil => exact ⟨rfl, rfl⟩
  | append_singleton kinds kind ih =>
    rw [run_concat, PlaceScan.run_concat]
    exact ih.step kind

/-! ### All that holds -/

/-- What holds of the progress behind any tokens `before`. The bombs are as many as the closed groups
ask for and so are the lists of profiles, which leaves one of these for every bomb. -/
structure WellFormed (limits : HostLimits) (before : List TokenKind) (progress : Progress σ) :
    Prop where
  bombs : (progress.bombs.map PlannedBomb.bomb).length = (PlaceScan.run before).finished.length
  profiles : (progress.bombs.map PlannedBomb.profiles).length =
    (PlaceScan.run before).finished.length
  grouped : progress.groupsUsed = true ↔ ∃ copies, .groupOpen copies ∈ before
  single : ∀ draft, progress.scope = .single draft →
    progress.groupsUsed = false ∧ progress.bombs = []
  group : ∀ draft copies, progress.scope = .group draft copies → progress.groupsUsed = true
  made : progress.bombs ≠ [] → progress.groupsUsed = true
  unmarked : (∀ draft, progress.scope.draft? = some draft → Unmarked draft.pools) ∧
    ∀ plan ∈ progress.bombs, Unmarked plan.bomb.pools
  positive : progress.defaults.Positive ∧
    ∀ draft, progress.scope.draft? = some draft → draft.settings.Positive
  /-- What else holds as long as there is no problem. -/
  clean : progress.diagnostics = [] →
    (∀ draft, progress.scope.draft? = some draft →
      (∀ pool ∈ draft.pools, 1 ≤ pool.count) ∧ (draft.hasSolvable = true → draft.pools ≠ [])) ∧
    ∀ plan ∈ progress.bombs, (∀ pool ∈ plan.bomb.pools, 1 ≤ pool.count) ∧
      1 ≤ plan.bomb.moduleCount ∧ plan.bomb.moduleCount ≤ limits.maxModules

/-- Bombs come from groups, so their places have an opening bracket in front. -/
theorem exists_groupOpen_of_finished {kinds : List TokenKind}
    (finished : (PlaceScan.run kinds).finished ≠ []) : ∃ copies, .groupOpen copies ∈ kinds := by
  obtain ⟨place, member⟩ := List.exists_mem_of_ne_nil _ finished
  obtain ⟨copies, rest, -, whole⟩ := (PlaceScan.run_located kinds).finished place member
  rw [PlaceScan.seen_run] at whole
  exact ⟨copies, by simp [whole]⟩

theorem insideGroup_grouped {kinds : List TokenKind} (inside : insideGroup kinds = true) :
    ∃ copies, .groupOpen copies ∈ kinds := by
  obtain ⟨bracket, last, opens⟩ := (Option.any_eq_true ..).1 inside
  have member : bracket ∈ kinds := (List.mem_filter.1 (List.mem_of_getLast? last)).1
  exact any_isGroupOpen_iff.1 (List.any_eq_true.2 ⟨bracket, member, opens⟩)

/-- Behind any tokens, so behind every front of a text: the scopes, the bombs and the brackets agree,
no pool is a marker, limits are at least one, and without problems the bombs can be played. -/
theorem run_wellFormed [RandomSource σ] (ctx : Context) (kinds : List TokenKind) (source : σ) :
    (run ctx { source } kinds).WellFormed ctx.limits kinds := by
  have stands := run_stands ctx kinds source
  have counts := run_counts ctx kinds source
  have steady := run_steady ctx kinds source
  have grouped : (run ctx { source } kinds).groupsUsed = true ↔
      ∃ copies, .groupOpen copies ∈ kinds := by
    rw [stands.groupsUsed, any_isGroupOpen_iff]
  have made : (run ctx { source } kinds).bombs ≠ [] →
      (run ctx { source } kinds).groupsUsed = true := by
    intro some
    refine grouped.2 (exists_groupOpen_of_finished ?_)
    rw [← List.length_pos_iff, ← counts.bombs]
    exact List.length_pos_iff.2 some
  refine ⟨?_, ?_, grouped, ?_, ?_, made, ?_, ?_, ?_⟩
  · rw [List.length_map, counts.bombs]
  · rw [List.length_map, counts.bombs]
  · intro draft found
    -- behind a group nothing is open but another group
    have unused : (run ctx { source } kinds).groupsUsed = false := by
      by_contra used
      have outside := stands.outside (by simpa using used)
      rw [found] at outside
      cases outside
    refine ⟨unused, ?_⟩
    by_contra some
    exact Bool.noConfusion (unused.symm.trans (made some))
  · intro draft copies found
    have inside := stands.inside
    rw [found] at inside
    exact grouped.2 (insideGroup_grouped inside.symm)
  · exact ⟨fun draft found => (steady.draft draft found).unmarked, steady.bombs⟩
  · exact ⟨steady.defaults, fun draft found => (steady.draft draft found).limits⟩
  · intro clean
    have sound := run_sound kinds source clean
    refine ⟨fun draft found => ?_, fun plan member => ?_⟩
    · have open_ := sound.draft draft found
      exact ⟨fun pool member => (open_.pools pool member).count_pos, open_.filled⟩
    · have playable := sound.bombs plan member
      exact ⟨fun pool member => (playable.pools pool member).count_pos, playable.modules_pos,
        playable.modules_le⟩

end Progress

end BombMission
