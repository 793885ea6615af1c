import BombMission.Compile
import BombMission.Proofs.Catalog.Filling
import BombMission.Random.SplitMix

/-!
# What is read of a catalog

Pools are resolved from the sets of a catalog alone. Its display names are for listings; nothing on the
way from a text to its mission reads them. Catalogs and registries with the same contents therefore
give the same missions, and the same problems, however they were filled.

## Main results

* `resolvePool_unnamed`: a pool comes to the same on a catalog without names, draws and all.
* `compile_unnamed`: so does a whole text.
* `filled_indistinguishable`: contexts that are filled alike give the same answers and missions.
-/

namespace BombMission

namespace Catalog

variable (catalog : Catalog)

theorem classify_unnamed (id : String) : catalog.unnamed.classify id = catalog.classify id := rfl

theorem expand_unnamed (aggregate : Aggregate) :
    catalog.unnamed.expand aggregate = catalog.expand aggregate := rfl

theorem enabled_unnamed (kind : ModuleKind) :
    catalog.unnamed.enabled kind = catalog.enabled kind := rfl

theorem lists_unnamed (kind : ModuleKind) (id : String) :
    catalog.unnamed.lists kind id = catalog.lists kind id := rfl

end Catalog

theorem Profile.enabledModules_unnamed (profile : Profile) (catalog : Catalog) (kind : ModuleKind) :
    profile.enabledModules catalog.unnamed kind = profile.enabledModules catalog kind := rfl

theorem ProfileRegistry.keywords_unnamed (registry : ProfileRegistry) (catalog : Catalog) :
    registry.keywords catalog.unnamed = registry.keywords catalog := rfl

/-- A context without display names. -/
def Context.unnamed (ctx : Context) : Context :=
  { ctx with catalog := ctx.catalog.unnamed }

/-! ### Pools -/

namespace Reference

variable (ctx : Context)

theorem readProfile_unnamed (kind : ModuleKind) (name : String) :
    readProfile ctx.unnamed kind name = readProfile ctx kind name := by
  have profiles : ctx.unnamed.profiles = ctx.profiles := rfl
  have catalog : ctx.unnamed.catalog = ctx.catalog.unnamed := rfl
  cases found : ctx.profiles.get? name <;>
    simp only [readProfile, profiles, catalog, found, Profile.enabledModules_unnamed]

theorem readIds_unnamed (ids : List String) :
    readIds ctx.unnamed.catalog ids = readIds ctx.catalog ids := by
  have known : knownModule ctx.unnamed.catalog = knownModule ctx.catalog := by
    funext id
    simp only [knownModule, Context.unnamed, Catalog.classify_unnamed]
  have problem : idProblem ctx.unnamed.catalog = idProblem ctx.catalog := by
    funext id
    simp only [idProblem, Context.unnamed, Catalog.classify_unnamed]
  simp only [readIds, known, problem]

theorem read_unnamed (body : String) : read ctx.unnamed body = read ctx body := by
  simp only [read, readProfile_unnamed, readIds_unnamed]

theorem modules_unnamed (reference : Reference) :
    reference.modules ctx.unnamed.catalog = reference.modules ctx.catalog := by
  cases reference with
  | aggregate aggregate => exact Catalog.expand_unnamed ctx.catalog aggregate
  | profile | explicit => rfl

end Reference

section Readings

variable {σ : Type} [RandomSource σ] (ctx : Context)

/-- A unique pool has the same candidates in the same order, so the same draws choose the same of
them. -/
theorem resolvePool_unnamed (body : String) (count : Nat) (unique : Bool) (source : σ) :
    resolvePool ctx.unnamed body count unique source = resolvePool ctx body count unique source := by
  have profiles : ctx.unnamed.profiles = ctx.profiles := rfl
  simp only [resolvePool, Reference.read_unnamed, Reference.modules_unnamed, profiles]

/-! ### Texts -/

namespace Progress

theorem fillPool_unnamed (progress : Progress σ) (pool : PoolText) :
    progress.fillPool ctx.unnamed pool = progress.fillPool ctx pool := by
  simp only [fillPool, resolvePool_unnamed]

theorem addPool_unnamed (progress : Progress σ) (pool : PoolText) :
    progress.addPool ctx.unnamed pool = progress.addPool ctx pool := by
  simp only [addPool, fillPool_unnamed]

theorem step_unnamed (progress : Progress σ) (kind : TokenKind) :
    progress.step ctx.unnamed kind = progress.step ctx kind := by
  have limits : ctx.unnamed.limits = ctx.limits := rfl
  cases kind with
  | pool pool => exact addPool_unnamed ctx progress pool
  | time | strikes => rfl
  | setting | groupOpen | groupClose => simp only [step, limits]

theorem run_unnamed (progress : Progress σ) (kinds : List TokenKind) :
    progress.run ctx.unnamed kinds = progress.run ctx kinds := by
  induction kinds generalizing progress with
  | nil => rfl
  | cons kind kinds ih => rw [run_cons, run_cons, step_unnamed, ih]

end Progress

theorem compile_unnamed (text : String) (source : σ) :
    compile ctx.unnamed text source = compile ctx text source := by
  have limits : ctx.unnamed.limits = ctx.limits := rfl
  simp only [compile, compileTokens, Outline.ofTokens, readTokens, Progress.run_unnamed, limits]

end Readings

/-! ### Contexts that are filled alike -/

/-- The context that updates and inserts fill. -/
def Context.filled (updates : List CatalogUpdate) (inserts : List (String × Profile))
    (limits : HostLimits) : Context :=
  { catalog := .ofUpdates updates, profiles := .ofInserts inserts, limits }

/-- What a host, and a mission text on it, can find out about a context is the same in both. -/
structure Context.Indistinguishable (left right : Context) : Prop where
  expand : ∀ aggregate, left.catalog.expand aggregate = right.catalog.expand aggregate
  enabled : ∀ kind, left.catalog.enabled kind = right.catalog.enabled kind
  classify : ∀ id, left.catalog.classify id = right.catalog.classify id
  lists : ∀ kind id, left.catalog.lists kind id = right.catalog.lists kind id
  keywords : left.profiles.keywords left.catalog = right.profiles.keywords right.catalog
  compile : ∀ {σ : Type} [RandomSource σ] (text : String) (source : σ),
    compile left text source = compile right text source

theorem Context.Indistinguishable.of_unnamed {left right : Context}
    (same : left.unnamed = right.unnamed) : left.Indistinguishable right := by
  obtain ⟨catalog, profiles, -⟩ := Context.mk.inj same
  constructor
  · intro aggregate
    rw [← Catalog.expand_unnamed, catalog, Catalog.expand_unnamed]
  · intro kind
    rw [← Catalog.enabled_unnamed, catalog, Catalog.enabled_unnamed]
  · intro id
    rw [← Catalog.classify_unnamed, catalog, Catalog.classify_unnamed]
  · intro kind id
    rw [← Catalog.lists_unnamed, catalog, Catalog.lists_unnamed]
  · rw [← ProfileRegistry.keywords_unnamed, catalog, profiles, ProfileRegistry.keywords_unnamed]
  · intro σ _ text source
    rw [← compile_unnamed, same, compile_unnamed]

/-- It makes no difference how a context was filled. Updates that apply the same operations to the same
ids, in any order, number and under any names, and inserts of which the last for each name are the
same give contexts that nothing tells apart. -/
theorem filled_indistinguishable {first second : List CatalogUpdate}
    {firstInserts secondInserts : List (String × Profile)}
    (sameUpdates : ∀ target, target ∈ first.map CatalogUpdate.target ↔
      target ∈ second.map CatalogUpdate.target)
    (sameInserts : ∀ name, ProfileRegistry.lastInsert firstInserts name =
      ProfileRegistry.lastInsert secondInserts name)
    (limits : HostLimits) :
    (Context.filled first firstInserts limits).Indistinguishable
      (.filled second secondInserts limits) := by
  apply Context.Indistinguishable.of_unnamed
  have catalog : (Catalog.ofUpdates first).unnamed = (Catalog.ofUpdates second).unnamed :=
    Catalog.unnamed_ofUpdates_congr sameUpdates
  have profiles : ProfileRegistry.ofInserts firstInserts = ProfileRegistry.ofInserts secondInserts :=
    ProfileRegistry.ofInserts_congr sameInserts
  simp only [Context.unnamed, Context.filled, catalog, profiles]

/-- The same updates in another order, one of them twice and with another name, and an insert that a
later one replaces. -/
theorem filled_indistinguishable_reordered :
    let maze : CatalogUpdate := .add .solvable "ThreeDMaze" "3D Maze"
    let hard : String × Profile := ("Hard", { disabled := .ofList ["Wires"], kind := .expert })
    let left := Context.filled [maze, .add .needy "Knob" "", .disable "Knob"]
      [("Hard", { disabled := .empty, kind := .defuser }), hard] {}
    let right := Context.filled
      [.disable "Knob", .add .needy "Knob" "Knob", maze, .add .solvable "ThreeDMaze" "Maze"] [hard] {}
    left.Indistinguishable right ∧
      left.catalog.displayName "ThreeDMaze" = "3D Maze" ∧
      right.catalog.displayName "ThreeDMaze" = "Maze" := by
  refine ⟨filled_indistinguishable ?_ ?_ {}, by decide, by decide⟩
  · intro target
    simp only [List.map_cons, List.map_nil, CatalogUpdate.target, List.mem_cons, List.not_mem_nil]
    grind
  · intro name
    simp only [ProfileRegistry.lastInsert, List.reverse_cons, List.reverse_nil, List.nil_append,
      List.cons_append, List.lookup_cons, List.lookup_nil]
    grind

end BombMission
