import BombMission.Proofs.Catalog.Lookup
import BombMission.Proofs.Outline.Step
import BombMission.Proofs.Pool.Resolution

/-!
# Pools with solvable modules

A pool counts as one with a solvable module by what its text refers to, before anything is drawn. An
aggregate or a profile of solvable modules holds nothing else, so for these and for lists of ids the
flag can only be wrong in two ways. `ALL_MODS` may stand for no module at all, and a unique pool may
draw only needy modules of a mixed list. `any_offersSolvable_resolve_iff` says that it is right
otherwise.
-/

namespace BombMission

/-- The modules that a content holds. Markers hold none. -/
def PoolContent.modules (catalog : Catalog) : PoolContent → List ModuleRef
  | aggregate a => catalog.expand a
  | profile _ _ modules => modules
  | explicit modules => modules
  | extraBombs | serializedBomb .. | factoryMode => []

/-- Whether a solvable module may fill a place of the pool. -/
def Pool.offersSolvable (catalog : Catalog) (pool : Pool) : Bool :=
  (pool.content.modules catalog).any ModuleRef.isSolvable

theorem any_isSolvable_iff {modules : List ModuleRef} {kind : ModuleKind}
    (same : ∀ m ∈ modules, m.moduleClass.kind = kind) :
    modules.any ModuleRef.isSolvable = true ↔ kind = .solvable ∧ modules ≠ [] := by
  constructor
  · intro some
    obtain ⟨m, member, solvable⟩ := List.any_eq_true.1 some
    have played : m.moduleClass.kind = .solvable := by simpa [ModuleRef.isSolvable] using solvable
    exact ⟨(same m member).symm.trans played, List.ne_nil_of_mem member⟩
  · rintro ⟨rfl, some⟩
    obtain ⟨m, member⟩ := List.exists_mem_of_ne_nil _ some
    exact List.any_eq_true.2 ⟨m, member, by simp [ModuleRef.isSolvable, same m member]⟩

namespace Catalog

variable {catalog : Catalog}

/-- The game has solvable modules of its own, so only the mods may be none. -/
theorem expand_solvable_ne_nil_iff {origin : Option ModuleOrigin} :
    catalog.expand ⟨origin, .solvable⟩ ≠ [] ↔
      (origin = some .mod → catalog.enabledMods .solvable ≠ []) := by
  have game : (VanillaModule.ofKind .solvable).map VanillaModule.ref ≠ [] := by decide
  rcases origin with _ | _ | _
  · simp [expand, Aggregate.includes, game]
  · simp [expand, Aggregate.includes, game]
  · simp [expand, Aggregate.includes]

end Catalog

namespace Reference

variable {ctx : Context} {body : String}

theorem keyword_eq_allMods_iff {a : Aggregate} :
    a.keyword = "ALL_MODS" ↔ a = ⟨some .mod, .solvable⟩ := by
  rcases a with ⟨_ | _ | _, _ | _⟩ <;> decide

theorem any_isSolvable_aggregate_iff {catalog : Catalog} (a : Aggregate) :
    ((aggregate a).modules catalog).any ModuleRef.isSolvable = true ↔
      (aggregate a).hasSolvable = true ∧
        (a.keyword = "ALL_MODS" → catalog.enabledMods .solvable ≠ []) := by
  have same : ∀ m ∈ catalog.expand a, m.moduleClass.kind = a.kind := by
    intro m member
    exact Catalog.kind_of_mem_expand member
  have counted : (aggregate a).hasSolvable = true ↔ a.kind = .solvable := by
    simp [hasSolvable]
  rw [modules, any_isSolvable_iff same, counted, keyword_eq_allMods_iff]
  refine and_congr_right ?_
  intro solvable
  obtain ⟨origin, kind⟩ := a
  obtain rfl : kind = .solvable := solvable
  rw [Catalog.expand_solvable_ne_nil_iff]
  simp

theorem any_isSolvable_readProfile (kind : ModuleKind) (name : String) :
    ((readProfile ctx kind name).1.modules ctx.catalog).any ModuleRef.isSolvable =
      (readProfile ctx kind name).1.hasSolvable := by
  unfold readProfile
  split
  · simp [modules, hasSolvable]
  next profile _ =>
    have same : ∀ m ∈ profile.enabledModules ctx.catalog kind, m.moduleClass.kind = kind := by
      intro m member
      exact Catalog.kind_of_mem_expand (List.mem_filter.1 member).1
    rw [Bool.eq_iff_iff]
    simp [modules, hasSolvable, any_isSolvable_iff same]

/-- The reference of a pool holds a solvable module when it counts as one that does, `ALL_MODS` on a
catalog without such mods apart. -/
theorem any_isSolvable_read_iff :
    ((read ctx body).1.modules ctx.catalog).any ModuleRef.isSolvable = true ↔
      (read ctx body).1.hasSolvable = true ∧
        (body = "ALL_MODS" → ctx.catalog.enabledMods .solvable ≠ []) := by
  unfold read
  split
  next a found =>
    rw [← Aggregate.keyword_of_ofKeyword? found]
    exact any_isSolvable_aggregate_iff a
  next none =>
    have other : body ≠ "ALL_MODS" := by
      rintro rfl
      have keyword : Aggregate.ofKeyword? "ALL_MODS" = some ⟨some .mod, .solvable⟩ := by decide
      cases keyword.symm.trans none
    split
    · simp [any_isSolvable_readProfile, other]
    · split
      · simp [any_isSolvable_readProfile, other]
      · simp [readIds, modules, hasSolvable, other]

theorem modules_content (reference : Reference) (catalog : Catalog) :
    reference.content.modules catalog = reference.modules catalog := by
  cases reference <;> rfl

end Reference

/-- A pool counts as one with a solvable module, and neither of the two exceptions applies. -/
structure PoolText.SuppliesSolvable (ctx : Context) (pool : PoolText) (resolution : Resolution) :
    Prop where
  counts : resolution.hasSolvable = true
  plain : pool.unique = false → pool.body = "ALL_MODS" → ctx.catalog.enabledMods .solvable ≠ []
  unique : pool.unique = true → ∃ m, drawnPool m ∈ resolution.pools ∧ m.isSolvable = true

theorem offersSolvable_drawnPool (catalog : Catalog) (m : ModuleRef) :
    (drawnPool m).offersSolvable catalog = m.isSolvable := by
  simp [Pool.offersSolvable, drawnPool, PoolContent.modules]

/-- A pool puts a solvable module on a bomb exactly when it counts as one that does and keeps it. -/
theorem any_offersSolvable_resolve_iff {σ : Type} [RandomSource σ] {ctx : Context} {pool : PoolText}
    {source : σ} :
    (pool.resolve ctx source).1.pools.any (Pool.offersSolvable ctx.catalog) = true ↔
      pool.SuppliesSolvable ctx (pool.resolve ctx source).1 := by
  obtain ⟨body, count, unique, unclosedQuote⟩ := pool
  have read := @Reference.any_isSolvable_read_iff ctx body
  unfold PoolText.resolve
  cases unique with
  | false =>
    constructor
    · intro offered
      simp only [pools_resolvePool_plain, List.any_cons, List.any_nil, Bool.or_false,
        Pool.offersSolvable, Reference.modules_content] at offered
      obtain ⟨counts, plain⟩ := read.1 offered
      exact ⟨by rwa [hasSolvable_resolvePool], fun _ => plain,
        fun unique => Bool.noConfusion unique⟩
    · rintro ⟨counts, plain, -⟩
      rw [hasSolvable_resolvePool] at counts
      simpa [Pool.offersSolvable, Reference.modules_content] using read.2 ⟨counts, plain rfl⟩
  | true =>
    constructor
    · intro offered
      obtain ⟨drawn, member, offers⟩ := List.any_eq_true.1 offered
      rw [pools_resolvePool_unique] at member
      obtain ⟨m, sampled, rfl⟩ := List.mem_map.1 member
      rw [offersSolvable_drawnPool] at offers
      -- a drawn module was one of the modules in question
      have referred := subset_firstOfEachId (mem_of_mem_sample sampled)
      have counts := (read.1 (List.any_eq_true.2 ⟨m, referred, offers⟩)).1
      exact ⟨by rwa [hasSolvable_resolvePool], fun plain => Bool.noConfusion plain,
        fun _ => ⟨m, List.mem_map.2 ⟨m, sampled, rfl⟩, offers⟩⟩
    · rintro ⟨-, -, unique⟩
      obtain ⟨m, member, solvable⟩ := unique rfl
      exact List.any_eq_true.2 ⟨drawnPool m, member, by rwa [offersSolvable_drawnPool]⟩

end BombMission
