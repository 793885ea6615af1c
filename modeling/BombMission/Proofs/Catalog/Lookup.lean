import BombMission.Proofs.Catalog.Filling
import Mathlib.Data.List.Nodup

/-!
# What a catalog says about an id

A catalog answers questions about ids in several ways: it classifies an id that is written in a
pool, it expands aggregates, it lists its entries, and it says whether an id names a module of some
kind. All of them go back to the same three sets, where a vanilla module wins over a mod of the same
id, a solvable mod over a needy one, and only installed mods can be disabled.

## Main results

* `Catalog.nodup_ids_expand`: no aggregate holds an id twice.
* `Catalog.classify_eq_known_iff`: an id is known with the class of the first module that has it.
* `ofUpdates_coherent`: all answers fit together, however the catalog was filled.

## Proof strategy

Each answer is first brought down to membership in the sets and to whether a vanilla module has the
id. `find?_enabled_vanilla` and `find?_enabled_mod` do so for the first module of an id, which needs
that no id repeats among the modules of one kind.
-/

namespace BombMission

namespace VanillaModule

theorem ofId?_eq_some_iff {id : String} {m : VanillaModule} : ofId? id = some m ↔ m.id = id := by
  constructor
  · exact id_of_ofId?
  · rintro rfl
    exact ofId?_id m

theorem ofId?_id_ne_none (m : VanillaModule) : ofId? m.id ≠ none := by
  simp [ofId?_id]

theorem id_injective : Function.Injective VanillaModule.id := by
  intro a b same
  have found := ofId?_id a
  rw [same, ofId?_id] at found
  exact (Option.some.inj found).symm

theorem mem_ofKind_iff {kind : ModuleKind} {m : VanillaModule} :
    m ∈ ofKind kind ↔ m.kind = kind := by
  simp [ofKind, mem_all]

theorem nodup_ids : (all.map VanillaModule.id).Nodup := by
  decide

theorem mem_ids_iff {id : String} : id ∈ all.map VanillaModule.id ↔ ofId? id ≠ none := by
  rw [Option.ne_none_iff_exists', List.mem_map]
  simp [mem_all, ofId?_eq_some_iff]

end VanillaModule

/-- Without repeated ids, the first module with an id is the only one. -/
theorem find?_id_eq_some_iff {modules : List ModuleRef}
    (distinct : (modules.map ModuleRef.id).Nodup) {id : String} {m : ModuleRef} :
    modules.find? (fun m => m.id = id) = some m ↔ m ∈ modules ∧ m.id = id := by
  constructor
  · intro found
    exact ⟨List.mem_of_find?_eq_some found, by simpa using List.find?_some found⟩
  · rintro ⟨member, rfl⟩
    obtain ⟨first, found⟩ : ∃ first, modules.find? (fun other => other.id = m.id) = some first :=
      Option.isSome_iff_exists.1 (List.find?_isSome.2 ⟨m, member, by simp⟩)
    have same : first.id = m.id := by simpa using List.find?_some found
    rw [found, List.inj_on_of_nodup_map distinct (List.mem_of_find?_eq_some found) member same]

namespace Catalog

variable {catalog : Catalog}

/-! ### Aggregates -/

theorem mem_enabledMods_iff {kind : ModuleKind} {id : String} :
    id ∈ catalog.enabledMods kind ↔
      id ∈ catalog.mods kind ∧ id ∉ catalog.disabled ∧ VanillaModule.ofId? id = none := by
  simp [enabledMods]

/-- A vanilla module hides the mods that have its id. -/
theorem vanilla_not_mem_enabledMods (own : VanillaModule) (kind : ModuleKind) :
    own.id ∉ catalog.enabledMods kind :=
  fun offered => own.ofId?_id_ne_none (mem_enabledMods_iff.1 offered).2.2

/-- The mods that pools may draw are in increasing order of their ids. -/
theorem pairwise_enabledMods (catalog : Catalog) (kind : ModuleKind) :
    (catalog.enabledMods kind).Pairwise (· < ·) :=
  (catalog.mods kind).sorted.filter _

theorem mem_expand_iff {a : Aggregate} {m : ModuleRef} :
    m ∈ catalog.expand a ↔
      (a.includes .vanilla = true ∧ ∃ own : VanillaModule, own.kind = a.kind ∧ own.ref = m) ∨
      (a.includes .mod = true ∧ m.id ∈ catalog.enabledMods a.kind ∧
        m.moduleClass = ⟨.mod, a.kind⟩) := by
  have vanilla : m ∈ (VanillaModule.ofKind a.kind).map VanillaModule.ref ↔
      ∃ own : VanillaModule, own.kind = a.kind ∧ own.ref = m := by
    simp [VanillaModule.mem_ofKind_iff]
  have mod : m ∈ (catalog.enabledMods a.kind).map (fun id => (⟨id, ⟨.mod, a.kind⟩⟩ : ModuleRef)) ↔
      m.id ∈ catalog.enabledMods a.kind ∧ m.moduleClass = ⟨.mod, a.kind⟩ := by
    rw [List.mem_map]
    constructor
    · rintro ⟨id, member, rfl⟩
      exact ⟨member, rfl⟩
    · rintro ⟨member, same⟩
      exact ⟨m.id, member, by rw [← same]⟩
  unfold expand
  rw [List.mem_append]
  refine or_congr ?_ ?_
  · split <;> simp [*]
  · split <;> simp [*]

theorem kind_of_mem_expand {a : Aggregate} {m : ModuleRef} (member : m ∈ catalog.expand a) :
    m.moduleClass.kind = a.kind := by
  rcases mem_expand_iff.1 member with ⟨-, own, played, rfl⟩ | ⟨-, -, same⟩
  · exact played
  · rw [same]

theorem map_id_expand (catalog : Catalog) (a : Aggregate) :
    (catalog.expand a).map ModuleRef.id =
      (if a.includes .vanilla then (VanillaModule.ofKind a.kind).map VanillaModule.id else []) ++
      (if a.includes .mod then catalog.enabledMods a.kind else []) := by
  have vanilla : ModuleRef.id ∘ VanillaModule.ref = VanillaModule.id := rfl
  unfold expand
  split <;> split <;> simp [vanilla, Function.comp_def]

/-- No aggregate holds an id twice, since a mod with the id of a vanilla module is never offered. -/
theorem nodup_ids_expand (catalog : Catalog) (a : Aggregate) :
    ((catalog.expand a).map ModuleRef.id).Nodup := by
  have vanilla : ((VanillaModule.ofKind a.kind).map VanillaModule.id).Nodup :=
    VanillaModule.nodup_ids.sublist (List.filter_sublist.map _)
  have mods : (catalog.enabledMods a.kind).Nodup := (catalog.mods a.kind).nodup.filter _
  have apart : ∀ id ∈ (VanillaModule.ofKind a.kind).map VanillaModule.id,
      id ∉ catalog.enabledMods a.kind := by
    intro id own
    obtain ⟨m, -, rfl⟩ := List.mem_map.1 own
    exact vanilla_not_mem_enabledMods m a.kind
  rw [map_id_expand]
  split <;> split
  · exact List.nodup_append.2 ⟨vanilla, mods, fun id own other offered same =>
      apart id own (same ▸ offered)⟩
  · simpa using vanilla
  · simpa using mods
  · exact .nil

/-- The mods of an aggregate stand in increasing order of their ids. -/
theorem pairwise_mods_expand (catalog : Catalog) (a : Aggregate) :
    (((catalog.expand a).filter fun m => m.moduleClass.origin = .mod).map ModuleRef.id).Pairwise
      (· < ·) := by
  have vanilla : ((VanillaModule.ofKind a.kind).map VanillaModule.ref).filter
      (fun m => m.moduleClass.origin = .mod) = [] := by
    simp [VanillaModule.ref]
  have mods : (((catalog.enabledMods a.kind).map fun id =>
      (⟨id, ⟨.mod, a.kind⟩⟩ : ModuleRef)).filter fun m => m.moduleClass.origin = .mod).map
        ModuleRef.id = catalog.enabledMods a.kind := by
    simp [List.filter_map, Function.comp_def]
  have whole : ((catalog.expand a).filter fun m => m.moduleClass.origin = .mod).map ModuleRef.id =
      if a.includes .mod then catalog.enabledMods a.kind else [] := by
    unfold expand
    rw [List.filter_append, List.map_append]
    split <;> split <;> simp [vanilla, mods]
  rw [whole]
  split
  · exact catalog.pairwise_enabledMods a.kind
  · exact .nil

/-! ### The first module with an id -/

section First

variable (kind : ModuleKind)

theorem find?_enabled_vanilla (own : VanillaModule) :
    (catalog.enabled kind).find? (fun m => m.id = own.id) =
      if own.kind = kind then some own.ref else none := by
  split
  next played =>
    rw [enabled, find?_id_eq_some_iff (catalog.nodup_ids_expand _)]
    exact ⟨mem_expand_iff.2 (.inl ⟨rfl, own, played, rfl⟩), rfl⟩
  next differs =>
    rw [List.find?_eq_none]
    intro m member
    rw [decide_eq_true_eq]
    intro same
    rcases mem_expand_iff.1 member with ⟨-, other, played, rfl⟩ | ⟨-, offered, -⟩
    · exact differs (VanillaModule.id_injective same ▸ played)
    · exact vanilla_not_mem_enabledMods own kind (same ▸ offered)

theorem find?_enabled_mod {id : String} (notVanilla : VanillaModule.ofId? id = none) :
    (catalog.enabled kind).find? (fun m => m.id = id) =
      if id ∈ catalog.mods kind ∧ id ∉ catalog.disabled then some ⟨id, ⟨.mod, kind⟩⟩ else none := by
  split
  next offered =>
    rw [enabled, find?_id_eq_some_iff (catalog.nodup_ids_expand _)]
    refine ⟨mem_expand_iff.2 (.inr ⟨rfl, ?_, rfl⟩), rfl⟩
    exact mem_enabledMods_iff.2 ⟨offered.1, offered.2, notVanilla⟩
  next missing =>
    rw [List.find?_eq_none]
    intro m member
    rw [decide_eq_true_eq]
    rintro rfl
    rcases mem_expand_iff.1 member with ⟨-, own, -, rfl⟩ | ⟨-, offered, -⟩
    · exact own.ofId?_id_ne_none notVanilla
    · obtain ⟨installed, on, -⟩ := mem_enabledMods_iff.1 offered
      exact missing ⟨installed, on⟩

end First

/-! ### Classification -/

theorem classify_vanilla (catalog : Catalog) (own : VanillaModule) :
    catalog.classify own.id = .known own.ref.moduleClass := by
  simp [classify, VanillaModule.ofId?_id]

/-- An id is known with the class of the first module that has it, the solvable ones first. -/
theorem classify_eq_known_iff {id : String} {moduleClass : ModuleClass} :
    catalog.classify id = .known moduleClass ↔
      ((catalog.enabled .solvable ++ catalog.enabled .needy).find? fun m => m.id = id).map
        ModuleRef.moduleClass = some moduleClass := by
  rw [List.find?_append]
  cases found : VanillaModule.ofId? id with
  | some own =>
    obtain rfl := VanillaModule.id_of_ofId? found
    rw [classify_vanilla, find?_enabled_vanilla, find?_enabled_vanilla]
    cases played : own.kind <;> simp
  | none =>
    rw [find?_enabled_mod _ found, find?_enabled_mod _ found]
    by_cases solvable : id ∈ catalog.solvableMods <;> by_cases needy : id ∈ catalog.needyMods <;>
      by_cases off : id ∈ catalog.disabled <;>
        simp [classify, found, mods, solvable, needy, off]

theorem classify_eq_unknown_iff {id : String} :
    catalog.classify id = .unknown ↔ VanillaModule.ofId? id = none ∧
      id ∉ catalog.solvableMods ∧ id ∉ catalog.needyMods := by
  unfold classify
  cases VanillaModule.ofId? id with
  | some own => simp
  | none => grind

theorem classify_eq_disabled_iff {id : String} :
    catalog.classify id = .disabled ↔ VanillaModule.ofId? id = none ∧
      (id ∈ catalog.solvableMods ∨ id ∈ catalog.needyMods) ∧ id ∈ catalog.disabled := by
  unfold classify
  cases VanillaModule.ofId? id with
  | some own => simp
  | none => grind

/-! ### Entries and kinds -/

theorem map_id_entries_perm (catalog : Catalog) :
    (catalog.entries.map Entry.id).Perm (VanillaModule.all.map VanillaModule.id ++
      (catalog.solvableMods.toList ++ catalog.needyMods.toList).filter
        fun id => (VanillaModule.ofId? id).isNone) := by
  unfold entries
  refine ((List.mergeSort_perm _ _).map Entry.id).trans ?_
  simp [Function.comp_def]

theorem mem_ids_entries_iff {id : String} :
    id ∈ catalog.entries.map Entry.id ↔
      VanillaModule.ofId? id ≠ none ∨ id ∈ catalog.solvableMods ∨ id ∈ catalog.needyMods := by
  rw [catalog.map_id_entries_perm.mem_iff, List.mem_append, VanillaModule.mem_ids_iff]
  cases found : VanillaModule.ofId? id <;> simp [found]

theorem lists_eq_true_iff {kind : ModuleKind} {id : String} :
    catalog.lists kind id = true ↔
      (∃ own, VanillaModule.ofId? id = some own ∧ own.kind = kind) ∨ id ∈ catalog.mods kind := by
  simp [lists, Option.any_eq_true]

theorem classify_eq_unknown_iff_lists {id : String} :
    catalog.classify id = .unknown ↔
      catalog.lists .solvable id = false ∧ catalog.lists .needy id = false := by
  rw [classify_eq_unknown_iff, ← Bool.not_eq_true, ← Bool.not_eq_true, lists_eq_true_iff,
    lists_eq_true_iff]
  cases VanillaModule.ofId? id with
  | some own => cases played : own.kind <;> simp [played]
  | none => simp [mods]

/-! ### Everything together -/

/-- The answers of a catalog about ids fit together, where some ids were disabled. -/
structure Coherent (catalog : Catalog) (wasDisabled : String → Prop) : Prop where
  /-- What is known is what pools may draw, with the class of the first module of the id. -/
  known : ∀ id moduleClass, catalog.classify id = .known moduleClass ↔
    ((catalog.enabled .solvable ++ catalog.enabled .needy).find? fun m => m.id = id).map
      ModuleRef.moduleClass = some moduleClass
  unknown : ∀ id, catalog.classify id = .unknown ↔ id ∉ catalog.entries.map Entry.id
  unlisted : ∀ id, catalog.classify id = .unknown ↔
    catalog.lists .solvable id = false ∧ catalog.lists .needy id = false
  /-- Disabling an id says something only of mods that are installed. -/
  disabled : ∀ id, catalog.classify id = .disabled ↔
    wasDisabled id ∧ id ∈ catalog.entries.map Entry.id ∧ VanillaModule.ofId? id = none
  entries : catalog.entries.Pairwise fun a b => a.id ≤ b.id
  /-- The aggregates of both origins hold the vanilla modules and behind them the mods. -/
  both : ∀ kind, catalog.expand ⟨none, kind⟩ =
    catalog.expand ⟨some .vanilla, kind⟩ ++ catalog.expand ⟨some .mod, kind⟩
  distinct : ∀ a, ((catalog.expand a).map ModuleRef.id).Nodup
  increasing : ∀ a, (((catalog.expand a).filter fun m => m.moduleClass.origin = .mod).map
    ModuleRef.id).Pairwise (· < ·)
  kinds : ∀ a, ∀ m ∈ catalog.expand a, m.moduleClass.kind = a.kind

theorem mem_disabled_ofUpdates {updates : List CatalogUpdate} {id : String} :
    id ∈ (ofUpdates updates).disabled ↔ .disable id ∈ updates := by
  have held := @mem_ids_ofUpdates updates .disable id
  refine held.trans ?_
  constructor
  · intro used
    obtain ⟨update, member, same⟩ := List.mem_map.1 used
    cases update with
    | add kind other name => cases same
    | disable other =>
      cases same
      exact member
  · intro member
    exact List.mem_map.2 ⟨_, member, rfl⟩

end Catalog

/-- Whatever updates fill a catalog, in any order, its answers about ids fit together. -/
theorem ofUpdates_coherent (updates : List CatalogUpdate) :
    (Catalog.ofUpdates updates).Coherent fun id => .disable id ∈ updates := by
  constructor
  · intro id moduleClass
    exact Catalog.classify_eq_known_iff
  · intro id
    rw [Catalog.classify_eq_unknown_iff, Catalog.mem_ids_entries_iff, not_or, not_not, not_or]
  · intro id
    exact Catalog.classify_eq_unknown_iff_lists
  · intro id
    rw [Catalog.classify_eq_disabled_iff, Catalog.mem_disabled_ofUpdates,
      Catalog.mem_ids_entries_iff]
    grind
  · exact Catalog.entries_pairwise _
  · exact Catalog.expand_both _
  · exact Catalog.nodup_ids_expand _
  · exact Catalog.pairwise_mods_expand _
  · intro a m member
    exact Catalog.kind_of_mem_expand member

end BombMission
