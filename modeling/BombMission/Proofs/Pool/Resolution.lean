import BombMission.Pool.Resolution
import BombMission.Proofs.Random.Sample

/-!
# What a resolved pool holds

A plain pool comes to one descriptor, a unique one to a descriptor of one module for every place. As
long as the pool has a place and no problem, there is at least one descriptor and each of them is
well-formed.
-/

namespace BombMission

/-- The modules that a unique pool draws from. -/
def Reference.candidates (reference : Reference) (catalog : Catalog) : List ModuleRef :=
  firstOfEachId (reference.modules catalog)

/-- A pool as it stands on a bomb that no marker was added to. -/
structure Pool.WellFormed (pool : Pool) : Prop where
  count_pos : 0 < pool.count
  one_of_unique : pool.unique = true → pool.count = 1 ∧ ∃ m, pool.content = .explicit [m]
  not_marker : pool.content.isMarker = false

theorem drawnPool_wellFormed (m : ModuleRef) : (drawnPool m).WellFormed :=
  ⟨Nat.one_pos, fun _ => ⟨rfl, m, rfl⟩, rfl⟩

theorem Reference.isMarker_content (reference : Reference) :
    reference.content.isMarker = false := by
  cases reference <;> rfl

theorem subset_firstOfEachId {modules : List ModuleRef} {m : ModuleRef}
    (kept : m ∈ firstOfEachId modules) : m ∈ modules := by
  induction modules with
  | nil => exact kept
  | cons first modules ih =>
    simp only [firstOfEachId, List.mem_cons, List.mem_filter] at kept
    rcases kept with rfl | ⟨later, -⟩
    · exact List.mem_cons_self
    · exact List.mem_cons_of_mem _ (ih later)

theorem shortfall_eq_nil_iff {count found : Nat} :
    shortfall count found = [] ↔ 0 < found ∧ count ≤ found := by
  unfold shortfall
  split
  · simp [*]
  · split
    · simp
      omega
    · simp
      omega

section Fields

variable {σ : Type} [RandomSource σ] (ctx : Context) (body : String) (count : Nat) (unique : Bool)
  (source : σ)

@[simp] theorem hasSolvable_resolvePool :
    (resolvePool ctx body count unique source).1.hasSolvable =
      (Reference.read ctx body).1.hasSolvable := by
  cases unique <;> rfl

@[simp] theorem pools_resolvePool_plain :
    (resolvePool ctx body count false source).1.pools =
      [{ count, content := (Reference.read ctx body).1.content }] := rfl

@[simp] theorem problems_resolvePool_plain :
    (resolvePool ctx body count false source).1.problems = (Reference.read ctx body).2 := rfl

@[simp] theorem pools_resolvePool_unique :
    (resolvePool ctx body count true source).1.pools =
      (sample ((Reference.read ctx body).1.candidates ctx.catalog) count source).1.map
        drawnPool := rfl

@[simp] theorem problems_resolvePool_unique :
    (resolvePool ctx body count true source).1.problems = (Reference.read ctx body).2 ++
      shortfall count ((Reference.read ctx body).1.candidates ctx.catalog).length := rfl

end Fields

variable {σ : Type} [RandomSource σ] {ctx : Context} {body : String} {count : Nat} {unique : Bool}
  {source : σ}

theorem resolvePool_wellFormed (positive : 0 < count) :
    ∀ pool ∈ (resolvePool ctx body count unique source).1.pools, pool.WellFormed := by
  intro pool member
  cases unique with
  | false =>
    rw [pools_resolvePool_plain, List.mem_singleton] at member
    subst member
    exact ⟨positive, fun marked => Bool.noConfusion marked, Reference.isMarker_content _⟩
  | true =>
    rw [pools_resolvePool_unique] at member
    obtain ⟨m, -, rfl⟩ := List.mem_map.1 member
    exact drawnPool_wellFormed m

theorem pools_resolvePool_ne_nil (positive : 0 < count)
    (clean : (resolvePool ctx body count unique source).1.problems = []) :
    (resolvePool ctx body count unique source).1.pools ≠ [] := by
  cases unique with
  | false => simp
  | true =>
    rw [problems_resolvePool_unique, List.append_eq_nil_iff, shortfall_eq_nil_iff] at clean
    -- nothing to draw from would have been a problem
    obtain ⟨-, some, -⟩ := clean
    intro none
    have drawn := congrArg List.length none
    rw [pools_resolvePool_unique, List.length_map, length_sample, List.length_nil] at drawn
    omega

end BombMission
