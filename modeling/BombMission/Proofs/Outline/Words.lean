import BombMission.Proofs.Outline.Standing
import BombMission.Proofs.Pool.Resolution
import BombMission.Proofs.Token.Words

/-!
# Finishing bombs on machine words

A bomb is finished when its bracket closes or the text ends. Then its places are added up on words of
64 bits, one pool after the other, and a bomb without a time limit gets two minutes for each of them,
which is computed before it is cut to what a word of 32 bits holds. Here reading tokens is written
once more so that it breaks off when one of these results does not fit.

The open bomb has no more places than the pools read so far ask for. So nothing breaks off as long as
the pools of the whole text ask for few enough places together.

## Main results

* `Words.finalize_eq`: finishing a bomb whose time limit fits its word.
* `Words.run_eq` and `Words.finish_eq`: reading tokens while every open bomb does.
* `Progress.places_run_le`: the places of the open bomb against those that were asked for.
-/

namespace BombMission

open Text

namespace Words

/-! ### Bombs -/

/-- The places of some pools, added up from the first pool on. -/
def places (pools : List Pool) : Except WordError Nat :=
  pools.foldlM (fun total pool => longWord (total + pool.count)) 0

/-- The time limit of a bomb. It is computed from the places only when none is given. -/
def timeLimit (given : Option Nat) (places : Nat) : Except WordError Nat :=
  match given with
  | some limit => return limit
  | none => do
    let seconds ← longWord (places * 120)
    return min seconds maxWord

/-- The strike limit of a bomb, one strike for every twelve places but three at least. -/
def strikeLimit (given : Option Nat) (places : Nat) : Nat :=
  given.getD (min (max (places / 12) 3) maxWord)

/-- Finishes a bomb: fills in what it leaves open and checks it. -/
def finalize (draft : BombDraft) (defaults : Settings) (limits : HostLimits)
    (number : Option Nat) : Except WordError (PlannedBomb × List Diagnostic) := do
  let count ← places draft.pools
  let value := draft.settings.valueOr defaults
  let timeLimit ← timeLimit (value .time) count
  let bomb : Bomb :=
    { timeLimit
      strikeLimit := strikeLimit (value .strikes) count
      needyActivationTime := value .needyActivationTime
      widgetCount := value .widgets
      frontFaceOnly := draft.settings.frontOnly
      pools := draft.pools }
  let unsolvable := if draft.hasSolvable then [] else [.noSolvableModules number]
  let crowded :=
    if limits.maxModules < count then [.tooManyModules count limits.maxModules number] else []
  return ({ bomb, profiles := draft.profiles }, unsolvable ++ crowded)

theorem foldlM_places {pools : List Pool} {total : Nat}
    (fits : total + moduleCount pools ≤ maxLongWord) :
    pools.foldlM (fun total pool => longWord (total + pool.count)) total =
      .ok (total + moduleCount pools) := by
  induction pools generalizing total with
  | nil => rfl
  | cons pool pools ih =>
    rw [moduleCount_cons, ← Nat.add_assoc] at fits ⊢
    -- no sum on the way is greater than the last one
    rw [List.foldlM_cons, longWord_of_le (Nat.le_trans (Nat.le_add_right ..) fits), ok_bind]
    exact ih fits

theorem places_eq {pools : List Pool} (fits : moduleCount pools ≤ maxLongWord) :
    places pools = .ok (moduleCount pools) := by
  have sum := @foldlM_places pools 0
  rw [Nat.zero_add] at sum
  exact sum fits

theorem timeLimit_eq {count : Nat} (fits : 120 * count ≤ maxLongWord) (given : Option Nat) :
    timeLimit given count = .ok (given.getD (defaultTimeLimit count)) := by
  cases given with
  | some limit => rfl
  | none =>
    rw [timeLimit, Nat.mul_comm, longWord_of_le fits]
    rfl

-- one place more, and two minutes for each of them do not fit any longer
example : timeLimit none 153722867280912930 = .ok maxWord ∧
    timeLimit none 153722867280912931 = .error (.overflow 18446744073709551720) := by
  decide

theorem strikeLimit_eq (given : Option Nat) (count : Nat) :
    strikeLimit given count = given.getD (defaultStrikeLimit count) := by
  rw [strikeLimit, defaultStrikeLimit, Nat.max_comm]

/-- A bomb that gets two minutes for each of its places within 64 bits is finished with its exact
limits and problems. -/
theorem finalize_eq {draft : BombDraft} (fits : 120 * draft.places ≤ maxLongWord)
    (defaults : Settings) (limits : HostLimits) (number : Option Nat) :
    finalize draft defaults limits number =
      .ok (draft.plan defaults, draft.problems limits number) := by
  have few : draft.places ≤ maxLongWord := by omega
  have sum : places draft.pools = .ok draft.places := places_eq few
  rw [finalize, sum, ok_bind]
  dsimp only
  rw [timeLimit_eq fits, ok_bind, strikeLimit_eq]
  rfl

/-! ### Tokens -/

variable {σ : Type}

def closeScope (progress : Progress σ) (limits : HostLimits) :
    Except WordError (Progress σ) :=
  match progress.scope with
  | .mission => return progress.report .unexpectedClose
  | .single draft => do
    let (_, problems) ← finalize draft progress.defaults limits none
    return { progress.reportAll problems with scope := .mission }
  | .group draft copies => do
    let number := progress.bombs.length + 1
    let (plan, problems) ← finalize draft progress.defaults limits (some number)
    return { progress.reportAll problems with
      scope := .mission
      bombs := progress.bombs ++ List.replicate copies plan }

def finish (progress : Progress σ) (limits : HostLimits) : Except WordError (Progress σ) :=
  match progress.scope with
  | .single draft => do
    let (plan, problems) ← finalize draft progress.defaults limits none
    return { progress.reportAll problems with
      scope := .mission
      bombs := progress.bombs ++ [plan] }
  | _ => return progress.finish limits

/-- Only a closing bracket computes anything; the other tokens are taken in as ever. -/
def step [RandomSource σ] (ctx : Context) (progress : Progress σ) :
    TokenKind → Except WordError (Progress σ)
  | .groupClose => closeScope progress ctx.limits
  | kind => return progress.step ctx kind

def run [RandomSource σ] (ctx : Context) (progress : Progress σ) (kinds : List TokenKind) :
    Except WordError (Progress σ) :=
  kinds.foldlM (step ctx) progress

end Words

/-- The places of the open bomb. -/
def Scope.places : Scope → Nat
  | mission => 0
  | single draft => draft.places
  | group draft _ => draft.places

namespace Words

variable {σ : Type} {progress : Progress σ}

theorem closeScope_eq (fits : 120 * progress.scope.places ≤ maxLongWord) (limits : HostLimits) :
    closeScope progress limits = .ok (progress.closeScope limits) := by
  unfold closeScope Progress.closeScope
  cases found : progress.scope with
  | mission => rfl
  | single draft | group draft =>
    rw [found] at fits
    dsimp only
    rw [finalize_eq fits, ok_bind]
    rfl

theorem finish_eq (fits : 120 * progress.scope.places ≤ maxLongWord) (limits : HostLimits) :
    finish progress limits = .ok (progress.finish limits) := by
  unfold finish
  cases found : progress.scope with
  | mission | group => rfl
  | single draft =>
    rw [found] at fits
    dsimp only
    rw [finalize_eq fits, ok_bind, Progress.finish, found]
    rfl

variable [RandomSource σ] {ctx : Context}

theorem step_eq (fits : 120 * progress.scope.places ≤ maxLongWord) (kind : TokenKind) :
    step ctx progress kind = .ok (progress.step ctx kind) := by
  cases kind with
  | groupClose => exact closeScope_eq fits ctx.limits
  | time | strikes | setting | pool | groupOpen => rfl

/-- Tokens are read as ever while the open bomb behind every part of them fits. -/
theorem run_eq {kinds : List TokenKind}
    (fits : ∀ front, front <+: kinds →
      120 * (progress.run ctx front).scope.places ≤ maxLongWord) :
    run ctx progress kinds = .ok (progress.run ctx kinds) := by
  induction kinds generalizing progress with
  | nil => rfl
  | cons kind kinds ih =>
    have first : 120 * progress.scope.places ≤ maxLongWord := fits [] List.nil_prefix
    rw [run, List.foldlM_cons, step_eq first, ok_bind]
    -- a part of the tokens behind this one is a part of all of them that starts with this one
    refine ih fun front isPrefix => ?_
    exact fits (kind :: front) (List.cons_prefix_cons.2 ⟨rfl, isPrefix⟩)

end Words

/-! ### Places that are asked for -/

/-- The places that a token asks for. -/
def TokenKind.places : TokenKind → Nat
  | pool text => text.count.getD 1
  | time _ | strikes _ | setting .. | groupOpen _ | groupClose => 0

theorem TokenKind.Bounded.places_le {kind : TokenKind} (bounded : kind.Bounded) :
    kind.places ≤ 999999999 := by
  cases kind with
  | pool => exact bounded
  | time | strikes | setting | groupOpen | groupClose => exact Nat.zero_le _

/-- The places that some tokens ask for. -/
def placesAsked : List TokenKind → Nat
  | [] => 0
  | kind :: kinds => kind.places + placesAsked kinds

theorem placesAsked_le {kinds : List TokenKind} (bounded : ∀ kind ∈ kinds, kind.Bounded) :
    placesAsked kinds ≤ kinds.length * 999999999 := by
  induction kinds with
  | nil => exact Nat.zero_le _
  | cons kind kinds ih =>
    obtain ⟨first, others⟩ := List.forall_mem_cons.1 bounded
    have few := first.places_le
    have rest := ih others
    rw [placesAsked, List.length_cons]
    omega

theorem moduleCount_drawn (modules : List ModuleRef) :
    moduleCount (modules.map drawnPool) = modules.length := by
  induction modules with
  | nil => rfl
  | cons m modules ih => simp [ih, drawnPool, Nat.add_comm]

/-- A pool comes to no more places than it asks for, and to fewer if too few modules can be drawn. -/
theorem moduleCount_resolvePool_le {σ : Type} [RandomSource σ] (ctx : Context) (body : String)
    (count : Nat) (unique : Bool) (source : σ) :
    moduleCount (resolvePool ctx body count unique source).1.pools ≤ count := by
  cases unique with
  | false => simp
  | true =>
    rw [pools_resolvePool_unique, moduleCount_drawn, length_sample]
    exact Nat.min_le_left ..

theorem Scope.places_changeSettings (scope : Scope) (change : Settings → Settings) :
    (scope.mapDraft fun draft => draft.changeSettings change).places = scope.places := by
  cases scope <;> rfl

theorem Scope.places_add_le (scope : Scope) (resolution : Resolution) :
    (scope.mapDraft fun draft => draft.add resolution).places ≤
      scope.places + moduleCount resolution.pools := by
  cases scope with
  | mission => exact Nat.zero_le _
  | single draft | group draft =>
    exact Nat.le_of_eq (moduleCount_append draft.pools resolution.pools)

namespace Progress

variable {σ : Type} {progress : Progress σ}

theorem places_poolScope : progress.poolScope.places = progress.scope.places := by
  unfold poolScope
  cases progress.scope <;> rfl

variable [RandomSource σ]

/-- A token gives the open bomb no more places than it asks for. -/
theorem places_step_le (ctx : Context) (kind : TokenKind) :
    (progress.step ctx kind).scope.places ≤ progress.scope.places + kind.places := by
  cases kind with
  | time | strikes | setting =>
    rw [(step_takesSetting ctx rfl).scope, Scope.places_changeSettings]
    exact Nat.le_add_right ..
  | pool pool =>
    change (progress.addPool ctx pool).scope.places ≤ _
    cases accepts : progress.acceptsPools with
    | false =>
      rw [addPool_of_refused accepts]
      exact Nat.le_add_right ..
    | true =>
      rw [addPool_of_accepted accepts]
      -- a pool may open a bomb of its own, which has no places before
      have added := progress.poolScope.places_add_le (pool.resolve ctx progress.source).1
      have few : moduleCount (pool.resolve ctx progress.source).1.pools ≤ pool.count.getD 1 :=
        moduleCount_resolvePool_le ..
      rw [places_poolScope] at added
      exact Nat.le_trans added (Nat.add_le_add_left few _)
  | groupOpen copies => exact Nat.zero_le _
  | groupClose =>
    change (progress.closeScope ctx.limits).scope.places ≤ _
    rw [scope_closeScope]
    exact Nat.zero_le _

/-- The open bomb has no more places than the tokens before ask for. -/
theorem places_run_le (ctx : Context) (kinds : List TokenKind) :
    (progress.run ctx kinds).scope.places ≤ progress.scope.places + placesAsked kinds := by
  induction kinds generalizing progress with
  | nil => exact Nat.le_refl _
  | cons kind kinds ih =>
    have first := @places_step_le _ progress _ ctx kind
    have rest := @ih (progress.step ctx kind)
    rw [run_cons, placesAsked]
    omega

end Progress

end BombMission
