import BombMission.Proofs.Outline.Alike
import BombMission.Proofs.Pool.Resolution

/-!
# Chance while a mission is read

Only unique pools draw from the random source, and they draw as many modules from one source as from
another. So two readings of a text that start from different sources differ at most in the modules
that were drawn, and not at all when nothing is drawn.

## Main results

* `resolve_alike`: a pool comes to the same from both sources, but for the drawn modules.
* `readTokens_alike`: two readings of a text are alike.
* `readTokens_of_undrawn`: without a unique pool that is resolved they are equal, and each source is
  as it was.
-/

namespace BombMission

/-! ### Drawn modules -/

/-- Pools are the same, or both hold a drawn module. -/
inductive Pool.Alike : Pool → Pool → Prop where
  | same (pool : Pool) : Pool.Alike pool pool
  | drawn (m other : ModuleRef) : Pool.Alike (drawnPool m) (drawnPool other)

theorem Pool.Alike.count {pool other : Pool} (alike : pool.Alike other) :
    pool.count = other.count := by
  cases alike <;> rfl

theorem forall₂_drawn {modules others : List ModuleRef} (lengths : modules.length = others.length) :
    List.Forall₂ Pool.Alike (modules.map drawnPool) (others.map drawnPool) := by
  induction modules generalizing others with
  | nil =>
    obtain rfl := List.eq_nil_of_length_eq_zero lengths.symm
    exact .nil
  | cons m modules ih =>
    cases others with
    | nil => cases lengths
    | cons other others => exact .cons (.drawn m other) (ih (Nat.succ.inj lengths))

section Resolve

variable {σ τ : Type} [RandomSource σ] [RandomSource τ] (ctx : Context) (pool : PoolText)
  (source : σ) (otherSource : τ)

theorem resolve_alike :
    (pool.resolve ctx source).1.Alike Pool.Alike (pool.resolve ctx otherSource).1 := by
  unfold PoolText.resolve
  cases pool.unique with
  | false => exact ⟨.cons (.same _) .nil, rfl, rfl, rfl⟩
  | true =>
    -- the flags and the problems speak of the reference, the draw only of the number of modules
    refine ⟨?_, rfl, rfl, rfl⟩
    rw [pools_resolvePool_unique, pools_resolvePool_unique]
    exact forall₂_drawn (by rw [length_sample, length_sample])

theorem resolve_of_plain (plain : pool.unique = false) :
    (pool.resolve ctx source).1 = (pool.resolve ctx otherSource).1 ∧
      (pool.resolve ctx source).2 = source := by
  unfold PoolText.resolve resolvePool
  rw [plain]
  exact ⟨rfl, rfl⟩

end Resolve

/-! ### Tokens that draw -/

namespace Progress

variable {σ τ : Type}

/-- Whether a token draws from the source: a unique pool that gets resolved. -/
def draws (progress : Progress σ) : TokenKind → Bool
  | .pool pool => pool.unique && progress.acceptsPools
  | _ => false

def drawsAny [RandomSource σ] (ctx : Context) (progress : Progress σ) : List TokenKind → Bool
  | [] => false
  | kind :: kinds => progress.draws kind || (progress.step ctx kind).drawsAny ctx kinds

/-- Alike readings draw at the same tokens. -/
theorem Alike.draws {R : Pool → Pool → Prop} {progress : Progress σ} {other : Progress τ}
    (alike : progress.Alike R other) (kind : TokenKind) :
    progress.draws kind = other.draws kind := by
  cases kind with
  | pool => simp only [Progress.draws, acceptsPools, alike.scope.isMission, alike.groupsUsed]
  | time | strikes | setting | groupOpen | groupClose => rfl

theorem finish_source (progress : Progress σ) (limits : HostLimits) :
    (progress.finish limits).source = progress.source := by
  unfold finish
  cases progress.scope <;> rfl

variable [RandomSource σ] [RandomSource τ] {ctx : Context}

theorem addPool_source {progress : Progress σ} {pool : PoolText}
    (undrawn : progress.draws (.pool pool) = false) :
    (progress.addPool ctx pool).source = progress.source := by
  -- a pool that is refused is not resolved, so only an accepted one has to be plain
  have plain : progress.acceptsPools = true →
      (pool.resolve ctx progress.source).2 = progress.source := fun accepted =>
    (resolve_of_plain ctx pool progress.source progress.source
      (by simpa [draws, accepted] using undrawn)).2
  unfold addPool
  dsimp only
  split
  next outside =>
    split
    · rfl
    next unused =>
      have groups : progress.groupsUsed = false := Bool.eq_false_iff.2 unused
      exact plain (by simp [acceptsPools, groups])
  next inside =>
    have scope : progress.scope.isMission = false := Bool.eq_false_iff.2 inside
    exact plain (by simp [acceptsPools, scope])

theorem step_source {progress : Progress σ} {kind : TokenKind}
    (undrawn : progress.draws kind = false) :
    (progress.step ctx kind).source = progress.source := by
  cases kind with
  | time | strikes | setting => exact (step_takesSetting ctx rfl).source
  | pool pool => exact addPool_source undrawn
  | groupOpen copies => rfl
  | groupClose =>
    unfold step closeScope
    cases progress.scope <;> rfl

theorem run_source {progress : Progress σ} {kinds : List TokenKind}
    (undrawn : progress.drawsAny ctx kinds = false) :
    (progress.run ctx kinds).source = progress.source := by
  induction kinds generalizing progress with
  | nil => rfl
  | cons kind kinds ih =>
    obtain ⟨first, others⟩ := Bool.or_eq_false_iff.1 undrawn
    exact (ih others).trans (step_source first)

/-! ### Runs -/

omit [RandomSource σ] [RandomSource τ] in
theorem alike_start (R : Pool → Pool → Prop) (source : σ) (other : τ) :
    Progress.Alike R { source } { source := other } :=
  ⟨rfl, rfl, .mission, rfl, .nil, rfl, rfl, rfl, rfl⟩

theorem Alike.run {progress : Progress σ} {other : Progress τ}
    (alike : progress.Alike Pool.Alike other) (kinds : List TokenKind) :
    (progress.run ctx kinds).Alike Pool.Alike (other.run ctx kinds) := by
  induction kinds generalizing progress other with
  | nil => exact alike
  | cons kind kinds ih =>
    have step : (progress.step ctx kind).Alike Pool.Alike (other.step ctx kind) :=
      alike.step (fun _ _ pools => pools.count) kind fun pool _ _ =>
        resolve_alike ctx pool progress.source other.source
    exact ih step

theorem Alike.step_of_undrawn {progress : Progress σ} {other : Progress τ}
    (alike : progress.Alike Eq other) {kind : TokenKind} (undrawn : progress.draws kind = false) :
    (progress.step ctx kind).Alike Eq (other.step ctx kind) := by
  refine alike.step (fun _ _ same => congrArg Pool.count same) kind ?_
  rintro pool rfl accepted
  have plain : pool.unique = false := by simpa [Progress.draws, accepted] using undrawn
  rw [(resolve_of_plain ctx pool progress.source other.source plain).1]
  exact ⟨List.forall₂_same.2 fun _ _ => rfl, rfl, rfl, rfl⟩

theorem Alike.run_of_undrawn {progress : Progress σ} {other : Progress τ}
    (alike : progress.Alike Eq other) {kinds : List TokenKind}
    (undrawn : progress.drawsAny ctx kinds = false) :
    (progress.run ctx kinds).Alike Eq (other.run ctx kinds) ∧
      other.drawsAny ctx kinds = false := by
  -- both readings draw at the same tokens, so neither draws at all
  induction kinds generalizing progress other with
  | nil => exact ⟨alike, rfl⟩
  | cons kind kinds ih =>
    obtain ⟨first, others⟩ := Bool.or_eq_false_iff.1 undrawn
    obtain ⟨run, still⟩ := ih (alike.step_of_undrawn first) others
    exact ⟨run, Bool.or_eq_false_iff.2 ⟨(alike.draws kind).symm.trans first, still⟩⟩

end Progress

/-! ### Whole texts -/

section Texts

variable {σ τ : Type} [RandomSource σ] [RandomSource τ] {ctx : Context} {kinds : List TokenKind}

/-- Two readings of a text differ at most in the modules that were drawn. -/
theorem readTokens_alike (source : σ) (other : τ) :
    (readTokens ctx kinds source).Alike Pool.Alike (readTokens ctx kinds other) :=
  ((Progress.alike_start _ source other).run kinds).finish (fun _ _ pools => pools.count)
    ctx.limits

/-- Without a draw two readings agree in everything but the source, and each source is as it was. -/
theorem readTokens_of_undrawn {source : σ}
    (undrawn : Progress.drawsAny ctx { source } kinds = false) (other : τ) :
    (readTokens ctx kinds source).Alike Eq (readTokens ctx kinds other) ∧
      (readTokens ctx kinds source).source = source ∧
      (readTokens ctx kinds other).source = other := by
  obtain ⟨run, otherUndrawn⟩ := (Progress.alike_start Eq source other).run_of_undrawn undrawn
  refine ⟨run.finish (fun _ _ same => congrArg Pool.count same) ctx.limits, ?_, ?_⟩
  · exact (Progress.finish_source _ _).trans (Progress.run_source undrawn)
  · exact (Progress.finish_source _ _).trans (Progress.run_source otherUndrawn)

end Texts

end BombMission
