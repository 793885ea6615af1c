import BombMission.Proofs.Pool.Solvable
import Mathlib.Data.List.Perm.Subperm

/-!
# Unique pools

A unique pool draws from what the plain pool of the same text stands for. Of modules that share an
id the first one counts, and none is drawn twice, so its places hold distinct modules; when there
are not more candidates than places, it holds all of them. What is wrong with the text is told as
for the plain pool, and behind it whether there were enough modules to draw.

## Main results

* `firstOfEachId_eq_eraseDupsBy`: the candidates are the modules with later repetitions erased.
* `sample_isDraw`: what is drawn from candidates with distinct ids.
* `unique_draws_from_plain`: the unique pool against the plain one.
-/

namespace BombMission

/-! ### Candidates -/

/-- A condition on ids alone keeps or drops all modules of an id, the first one with them. -/
theorem firstOfEachId_filter (keeps : String → Bool) (modules : List ModuleRef) :
    firstOfEachId (modules.filter fun m => keeps m.id) =
      (firstOfEachId modules).filter fun m => keeps m.id := by
  induction modules with
  | nil => rfl
  | cons m modules ih =>
    cases kept : keeps m.id with
    | true => simp [firstOfEachId, kept, ih, List.filter_filter, Bool.and_comm]
    | false =>
      have dropped : ∀ other : ModuleRef, keeps other.id = true → other.id ≠ m.id := by
        intro other keptOther same
        rw [same, kept] at keptOther
        cases keptOther
      simp only [firstOfEachId, List.filter_cons, kept, Bool.false_eq_true, if_false, ih,
        List.filter_filter]
      refine List.filter_congr fun other _ => ?_
      by_cases keptOther : keeps other.id = true
      · simp [keptOther, dropped other keptOther]
      · simp [keptOther]

theorem firstOfEachId_eq_eraseDupsBy (modules : List ModuleRef) :
    firstOfEachId modules = modules.eraseDupsBy fun m other => m.id == other.id := by
  match modules with
  | [] => rfl
  | m :: modules =>
    -- repetitions of the first id can go before the others are looked at, or after it
    have swapped := firstOfEachId_filter (fun id => !decide (id = m.id)) modules
    rw [List.eraseDupsBy_cons, ← firstOfEachId_eq_eraseDupsBy, firstOfEachId]
    simpa using swapped.symm
termination_by modules.length
decreasing_by exact Nat.lt_succ_of_le (List.length_filter_le _ _)

/-- The modules that some pools hold, each id where it comes first. -/
def distinctModules (catalog : Catalog) (pools : List Pool) : List ModuleRef :=
  (pools.flatMap fun pool => pool.content.modules catalog).eraseDupsBy fun m other =>
    m.id == other.id

/-! ### Draws -/

/-- Modules drawn from candidates without repetition, as many as there are places or candidates. -/
structure IsDraw (candidates : List ModuleRef) (places : Nat) (drawn : List ModuleRef) : Prop where
  length : drawn.length = min places candidates.length
  subset : ∀ m ∈ drawn, m ∈ candidates
  distinct : (drawn.map ModuleRef.id).Nodup
  /-- With enough places every candidate is drawn exactly once. -/
  all : candidates.length ≤ places → drawn.Perm candidates

variable {σ : Type} [RandomSource σ]

theorem sample_isDraw {candidates : List ModuleRef}
    (distinct : (candidates.map ModuleRef.id).Nodup) (places : Nat) (source : σ) :
    IsDraw candidates places (sample candidates places source).1 := by
  have apart : (candidates.Pairwise fun a b => a.id ≠ b.id) := List.pairwise_map.1 distinct
  have drawnApart : ((sample candidates places source).1.map ModuleRef.id).Nodup :=
    List.pairwise_map.2 (pairwise_sample (fun _ _ differ same => differ same.symm) apart _ _)
  refine ⟨length_sample _ _ _, fun m drawn => mem_of_mem_sample drawn, drawnApart, ?_⟩
  intro enough
  have inside : (sample candidates places source).1.Subperm candidates :=
    drawnApart.of_map.subperm fun m drawn => mem_of_mem_sample drawn
  exact inside.perm_of_length_le (by simp [enough])

/-! ### Pools -/

/-- A unique pool against the plain pool of the same text. It holds modules drawn without repetition
from those of the plain pool, one for each place as far as they go. -/
structure Resolution.DrawsFrom (unique plain : Resolution) (catalog : Catalog) (count : Nat) :
    Prop where
  pools : ∃ drawn, IsDraw (distinctModules catalog plain.pools) count drawn ∧
    unique.pools = drawn.map fun m => { count := 1, unique := true, content := .explicit [m] }
  /-- Behind the problems of the plain pool it is told when modules are missing. -/
  problems : unique.problems = plain.problems ++
    (if distinctModules catalog plain.pools = [] then [.noValidModules]
    else if (distinctModules catalog plain.pools).length < count then
      [.uniqueShortfall count (distinctModules catalog plain.pools).length]
    else [])
  hasSolvable : unique.hasSolvable = plain.hasSolvable
  profile : unique.profile = plain.profile

theorem distinctModules_plain (ctx : Context) (body : String) (count : Nat) (source : σ) :
    distinctModules ctx.catalog (resolvePool ctx body count false source).1.pools =
      (Reference.read ctx body).1.candidates ctx.catalog := by
  simp [distinctModules, Reference.modules_content, Reference.candidates,
    firstOfEachId_eq_eraseDupsBy]

/-- A unique pool draws from exactly the modules that the plain pool of the same text holds, and it
counts as solvable and names a profile as that one does. -/
theorem unique_draws_from_plain (ctx : Context) (body : String) (count : Nat) (source : σ) :
    (resolvePool ctx body count true source).1.DrawsFrom
      (resolvePool ctx body count false source).1 ctx.catalog count := by
  have candidates := distinctModules_plain ctx body count source
  constructor
  · rw [candidates]
    refine ⟨_, sample_isDraw ?_ count source, pools_resolvePool_unique ctx body count source⟩
    exact nodup_firstOfEachId _
  · rw [candidates, problems_resolvePool_unique, problems_resolvePool_plain]
    simp [shortfall]
  · simp
  · rfl

end BombMission
