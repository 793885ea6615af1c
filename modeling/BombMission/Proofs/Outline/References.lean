import BombMission.Proofs.Outline.Standing
import BombMission.Proofs.Pool.References

/-!
# Bad references of a text

Whatever else is wrong with a text, the problems with what its pools refer to are found once each and
in the order of the pools. It does not matter what becomes of a pool: bombs that are dropped, lost or
never closed have their pools looked up all the same. Only a pool that is refused is not, one that
stands outside groups although there was a group before.

## Main results

* `Progress.filter_problemsOf`: what one token adds to these problems.
* `readTokens_reportsReferences`: the problems of a whole text with its references.

## Proof strategy

`ReportsReference` settles what a pool has to say by itself, and `refusesPools` which pools are looked
up, by their brackets. A token adds the one if the other allows it, and nothing else that a token
reports is about a reference. The rest is an induction over the text, token by token.
-/

namespace BombMission

def TokenKind.pool? : TokenKind → Option PoolText
  | pool text => some text
  | time _ | strikes _ | setting .. | groupOpen _ | groupClose => none

/-- The pools of a text that are looked up. -/
def acceptedPools (kinds : List TokenKind) : List PoolText :=
  (standing (fun before => !refusesPools before) kinds).filterMap TokenKind.pool?

theorem acceptedPools_concat (kinds : List TokenKind) (kind : TokenKind) :
    acceptedPools (kinds ++ [kind]) =
      acceptedPools kinds ++ if refusesPools kinds then [] else kind.pool?.toList := by
  simp only [acceptedPools, standing_concat, List.filterMap_append]
  cases refusesPools kinds with
  | true => rfl
  | false => cases kind <;> rfl

/-! ### Tokens -/

theorem filter_of_allAbout {topic : ProblemTopic} (other : topic ≠ .pool)
    {problems : List Diagnostic} (about : allAbout topic problems = true) :
    problems.filter Diagnostic.isAboutReference = [] := by
  rw [List.filter_eq_nil_iff]
  intro problem member reference
  apply other
  rw [← topic_of_allAbout about problem member, topic_of_isAboutReference reference]

namespace Progress

variable {σ : Type} [RandomSource σ] {progress : Progress σ} {ctx : Context}

theorem filter_poolProblems (pool : PoolText) :
    (progress.poolProblems ctx pool).filter Diagnostic.isAboutReference =
      if progress.acceptsPools then (Reference.read ctx pool.body).2 else [] := by
  have quote : (if pool.unclosedQuote then [Diagnostic.unclosedQuote] else []).filter
      Diagnostic.isAboutReference = [] := by
    split <;> rfl
  have count : (if pool.count.getD 1 = 0 then [Diagnostic.invalidPoolCount] else []).filter
      Diagnostic.isAboutReference = [] := by
    split <;> rfl
  simp only [poolProblems, List.filter_append, quote, List.nil_append]
  split
  · rw [List.filter_append, count, PoolText.resolve, filter_problems_resolvePool, List.nil_append]
  · rfl

/-- A token that is no pool has no problem with a reference, and neither has a pool that is refused. -/
theorem filter_problemsOf (kind : TokenKind) :
    (progress.problemsOf ctx kind).filter Diagnostic.isAboutReference =
      (if progress.acceptsPools then kind.pool?.toList else []).flatMap fun pool =>
        (Reference.read ctx pool.body).2 := by
  have about := allAbout_problemsOf progress ctx kind
  cases kind with
  | time | strikes | setting | groupOpen | groupClose =>
    rw [filter_of_allAbout (by simp [TokenKind.topic]) about]
    cases progress.acceptsPools <;> rfl
  | pool pool =>
    refine (filter_poolProblems pool).trans ?_
    cases progress.acceptsPools with
    | true => simp [TokenKind.pool?]
    | false => rfl

/-! ### Texts -/

theorem filter_diagnostics_run (kinds : List TokenKind) (source : σ) :
    (run ctx { source } kinds).diagnostics.filter Diagnostic.isAboutReference =
      (acceptedPools kinds).flatMap fun pool => (Reference.read ctx pool.body).2 := by
  induction kinds using List.reverseRecOn with
  | nil => rfl
  | append_singleton kinds kind ih =>
    rw [run_concat, diagnostics_step, List.filter_append, ih, filter_problemsOf, acceptsPools_run,
      acceptedPools_concat, List.flatMap_append]
    cases refusesPools kinds <;> rfl

end Progress

theorem forall₂_reports_iff {ctx : Context} {pools : List PoolText}
    {reports : List (List Diagnostic)} :
    List.Forall₂ (fun pool report => ReportsReference ctx pool.body report) pools reports ↔
      pools.map (fun pool => (Reference.read ctx pool.body).2) = reports := by
  simp only [reportsReference_iff]
  rw [← List.forall₂_map_left_iff, List.forall₂_eq_eq_eq]

variable {σ : Type} [RandomSource σ]

theorem filter_diagnostics_readTokens (ctx : Context) (kinds : List TokenKind) (source : σ) :
    (readTokens ctx kinds source).diagnostics.filter Diagnostic.isAboutReference =
      (acceptedPools kinds).flatMap fun pool => (Reference.read ctx pool.body).2 := by
  have atEnd : allAbout .bomb ((Progress.run ctx { source } kinds).endProblems ctx.limits) = true :=
    Progress.allAbout_endProblems ctx.limits
  rw [readTokens, Progress.diagnostics_finish, List.filter_append,
    filter_of_allAbout (by decide) atEnd, Progress.filter_diagnostics_run, List.append_nil]

/-- The problems of a text with what its pools refer to are those of its pools, each once and in
order, however many other problems there are. A pool is left out exactly when it stands outside all
bombs behind a group. -/
theorem readTokens_reportsReferences (ctx : Context) (kinds : List TokenKind) (source : σ) :
    (∀ problems, (readTokens ctx kinds source).diagnostics.filter Diagnostic.isAboutReference =
        problems ↔
      ∃ reports, List.Forall₂ (fun pool report => ReportsReference ctx pool.body report)
        (acceptedPools kinds) reports ∧ reports.flatten = problems) ∧
    ∀ before, refusesPools before = true ↔
      (Progress.run ctx { source } before).scope = .mission ∧
        ∃ copies, .groupOpen copies ∈ before := by
  constructor
  · intro problems
    have found : (readTokens ctx kinds source).diagnostics.filter Diagnostic.isAboutReference =
        ((acceptedPools kinds).map fun pool => (Reference.read ctx pool.body).2).flatten := by
      rw [filter_diagnostics_readTokens, List.flatMap_def]
    simp only [found, forall₂_reports_iff, exists_eq_left']
  · intro before
    have accepts := Progress.acceptsPools_run ctx before source
    have used := (Progress.run_stands ctx before source).groupsUsed
    simp only [Progress.acceptsPools, Bool.not_inj_iff] at accepts
    rw [← accepts, used, Bool.and_eq_true, Scope.isMission_eq_true_iff, any_isGroupOpen_iff]

end BombMission
