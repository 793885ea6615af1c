import BombMission.Catalog.Snapshot
import BombMission.Proofs.Catalog.Lookup

/-!
# Ids that stand for two modules

Nothing keeps a host from installing a mod of one id as solvable and another of the same id as
needy. Such an id is classified as solvable, but the entries list it twice, and pools of needy
modules still draw it as a needy one. This is the only way in which an id can stand for two modules:
a vanilla module hides the mods that have its id everywhere.

## Main results

* `Catalog.Twofold`: the ids in question.
* `one_lt_count_entries_iff`, `enabled_twice_iff`, `classify_of_mem_expand_iff`: they are exactly
  the ids that are listed twice, offered as both kinds, or offered with another class than they are
  classified with.
* `twofold_exactly`: a catalog gives each id one identity exactly when it has no such id.
-/

namespace BombMission

namespace Catalog

/-- A mod with this id is installed as solvable and as needy, and no vanilla module hides both. -/
structure Twofold (catalog : Catalog) (id : String) : Prop where
  solvable : id ∈ catalog.solvableMods
  needy : id ∈ catalog.needyMods
  notVanilla : VanillaModule.ofId? id = none

/-- Every id has one identity: it is listed once, offered as one kind, and offered with the class
that it is classified with. -/
structure OneIdentity (catalog : Catalog) : Prop where
  listed : (catalog.entries.map Entry.id).Nodup
  offered : ∀ id, id ∈ (catalog.enabled .solvable).map ModuleRef.id →
    id ∉ (catalog.enabled .needy).map ModuleRef.id
  classified : ∀ a, ∀ m ∈ catalog.expand a, catalog.classify m.id = .known m.moduleClass

variable {catalog : Catalog} {id : String}

/-! ### Entries -/

theorem count_entries (catalog : Catalog) (id : String) :
    (catalog.entries.map Entry.id).count id =
      if VanillaModule.ofId? id = none then
        (if id ∈ catalog.solvableMods then 1 else 0) + (if id ∈ catalog.needyMods then 1 else 0)
      else 1 := by
  rw [catalog.map_id_entries_perm.count_eq, List.count_append]
  cases found : VanillaModule.ofId? id with
  | some own =>
    have listed : id ∈ VanillaModule.all.map VanillaModule.id := by
      simp [VanillaModule.mem_ids_iff, found]
    have hidden : id ∉ (catalog.solvableMods.toList ++ catalog.needyMods.toList).filter
        fun id => (VanillaModule.ofId? id).isNone := by
      simp [found]
    rw [List.count_eq_one_of_mem VanillaModule.nodup_ids listed, List.count_eq_zero.2 hidden]
    simp
  | none =>
    have absent : id ∉ VanillaModule.all.map VanillaModule.id := by
      simp [VanillaModule.mem_ids_iff, found]
    rw [List.count_eq_zero.2 absent, List.count_filter (by simp [found]), List.count_append,
      catalog.solvableMods.nodup.count, catalog.needyMods.nodup.count]
    simp

theorem one_lt_count_entries_iff :
    1 < (catalog.entries.map Entry.id).count id ↔ catalog.Twofold id := by
  rw [count_entries]
  constructor
  · intro twice
    split at twice
    next notVanilla =>
      by_cases solvable : id ∈ catalog.solvableMods <;> by_cases needy : id ∈ catalog.needyMods <;>
        simp [solvable, needy] at twice
      exact ⟨solvable, needy, notVanilla⟩
    · simp at twice
  · rintro ⟨solvable, needy, notVanilla⟩
    simp [solvable, needy, notVanilla]

theorem nodup_entries_iff :
    (catalog.entries.map Entry.id).Nodup ↔ ∀ id, ¬ catalog.Twofold id := by
  simp only [List.nodup_iff_count_le_one, ← one_lt_count_entries_iff, Nat.not_lt]

/-! ### Modules that pools may draw -/

theorem mem_ids_enabled_iff {kind : ModuleKind} :
    id ∈ (catalog.enabled kind).map ModuleRef.id ↔
      (∃ own : VanillaModule, own.kind = kind ∧ own.id = id) ∨ id ∈ catalog.enabledMods kind := by
  rw [enabled, map_id_expand]
  simp [Aggregate.includes, VanillaModule.mem_ofKind_iff]

/-- A vanilla module has one kind, so only mods can be offered as both. -/
theorem enabled_twice_iff :
    id ∈ (catalog.enabled .solvable).map ModuleRef.id ∧
      id ∈ (catalog.enabled .needy).map ModuleRef.id ↔
    catalog.Twofold id ∧ id ∉ catalog.disabled := by
  rw [mem_ids_enabled_iff, mem_ids_enabled_iff]
  constructor
  · rintro ⟨⟨own, played, rfl⟩ | offered, second⟩
    · rcases second with ⟨other, otherPlayed, same⟩ | offered
      · rw [VanillaModule.id_injective same, played] at otherPlayed
        cases otherPlayed
      · exact absurd offered (vanilla_not_mem_enabledMods own .needy)
    · rcases second with ⟨own, -, rfl⟩ | alsoOffered
      · exact absurd offered (vanilla_not_mem_enabledMods own .solvable)
      · obtain ⟨solvable, on, notVanilla⟩ := mem_enabledMods_iff.1 offered
        exact ⟨⟨solvable, (mem_enabledMods_iff.1 alsoOffered).1, notVanilla⟩, on⟩
  · rintro ⟨⟨solvable, needy, notVanilla⟩, on⟩
    exact ⟨.inr (mem_enabledMods_iff.2 ⟨solvable, on, notVanilla⟩),
      .inr (mem_enabledMods_iff.2 ⟨needy, on, notVanilla⟩)⟩

theorem classify_twofold (twofold : catalog.Twofold id) (on : id ∉ catalog.disabled) :
    catalog.classify id = .known ⟨.mod, .solvable⟩ := by
  simp [classify, twofold.notVanilla, twofold.solvable, on]

/-- A module is offered with the class of its id, a needy one apart whose id also names a solvable
mod. -/
theorem classify_of_mem_expand_iff {a : Aggregate} {m : ModuleRef} (member : m ∈ catalog.expand a) :
    catalog.classify m.id = .known m.moduleClass ↔ ¬ (a.kind = .needy ∧ catalog.Twofold m.id) := by
  rcases mem_expand_iff.1 member with ⟨-, own, -, rfl⟩ | ⟨-, offered, same⟩
  · have hidden : ¬ catalog.Twofold own.id := fun twofold =>
      own.ofId?_id_ne_none twofold.notVanilla
    exact iff_of_true (catalog.classify_vanilla own) fun twofold => hidden twofold.2
  · obtain ⟨installed, on, notVanilla⟩ := mem_enabledMods_iff.1 offered
    rw [same]
    cases played : a.kind with
    | solvable =>
      rw [played] at installed
      have solvable : m.id ∈ catalog.solvableMods := installed
      simp [classify, notVanilla, solvable, on]
    | needy =>
      rw [played] at installed
      have needy : m.id ∈ catalog.needyMods := installed
      by_cases solvable : m.id ∈ catalog.solvableMods
      · have twofold : catalog.Twofold m.id := ⟨solvable, needy, notVanilla⟩
        simp [classify_twofold twofold on, twofold]
      · have single : ¬ catalog.Twofold m.id := fun twofold => solvable twofold.solvable
        simp [classify, notVanilla, needy, on, solvable, single]

theorem oneIdentity_iff : catalog.OneIdentity ↔ ∀ id, ¬ catalog.Twofold id := by
  constructor
  · intro identity
    exact nodup_entries_iff.1 identity.listed
  · intro none
    refine ⟨nodup_entries_iff.2 none, ?_, ?_⟩
    · intro id solvable needy
      exact none id (enabled_twice_iff.1 ⟨solvable, needy⟩).1
    · intro a m member
      exact (classify_of_mem_expand_iff member).2 fun twofold => none m.id twofold.2

theorem read_of_snapshot {text : String} {snapshot : CatalogSnapshot}
    (found : (CatalogSnapshot.read text).toOption = some snapshot) :
    read text = .ok snapshot.catalog := by
  unfold read
  cases given : CatalogSnapshot.read text with
  | error problem =>
    rw [given] at found
    cases found
  | ok held =>
    rw [given] at found
    rw [Option.some.inj found]
    rfl

end Catalog

/-- An id is listed twice exactly when it is twofold. Then it is also offered as both kinds, unless
it is disabled, and its needy module has not the class that the id is classified with. So a catalog
gives each id one identity exactly when none is twofold. -/
theorem twofold_exactly (catalog : Catalog) :
    (∀ id, 1 < (catalog.entries.map Entry.id).count id ↔ catalog.Twofold id) ∧
    (∀ id, id ∈ (catalog.enabled .solvable).map ModuleRef.id ∧
        id ∈ (catalog.enabled .needy).map ModuleRef.id ↔
      catalog.Twofold id ∧ id ∉ catalog.disabled) ∧
    (∀ a, ∀ m ∈ catalog.expand a, catalog.classify m.id = .known m.moduleClass ↔
      ¬ (a.kind = .needy ∧ catalog.Twofold m.id)) ∧
    (catalog.OneIdentity ↔ ∀ id, ¬ catalog.Twofold id) := by
  refine ⟨?_, ?_, ?_, Catalog.oneIdentity_iff⟩
  · intro id
    exact Catalog.one_lt_count_entries_iff
  · intro id
    exact Catalog.enabled_twice_iff
  · intro a m member
    exact Catalog.classify_of_mem_expand_iff member

/-- A mod that is installed as both kinds, and the id of a vanilla module that is as well. -/
theorem twofold_exactly_twin :
    let catalog := Catalog.ofUpdates [.add .solvable "Twin" "", .add .needy "Twin" "Second",
      .add .solvable "Wires" "", .add .needy "Wires" ""]
    catalog.Twofold "Twin" ∧ ¬ catalog.OneIdentity ∧
      ¬ 1 < (catalog.entries.map Entry.id).count "Wires" := by
  intro catalog
  obtain ⟨listed, -, -, identity⟩ := twofold_exactly catalog
  have twin : catalog.Twofold "Twin" := ⟨by decide, by decide, by decide⟩
  refine ⟨twin, ?_, ?_⟩
  · intro single
    exact identity.1 single "Twin" twin
  · rw [listed]
    rintro ⟨-, -, notVanilla⟩
    exact absurd notVanilla (by decide)

/-- One id in both lists of a snapshot: it is listed twice, and offered as a needy module while it
is classified as a solvable one. -/
theorem snapshot_two_identities :
    let catalog := Catalog.ofUpdates [.add .solvable "Twin" "", .add .needy "Twin" ""]
    let mod := "\x7b\"id\":\"Twin\"\x7d"
    Catalog.read ("\x7b\"solvable\":[" ++ mod ++ "],\"needy\":[" ++ mod ++ "]\x7d") = .ok catalog ∧
      (catalog.entries.map Entry.id).count "Twin" = 2 ∧
      ⟨"Twin", ⟨.mod, .needy⟩⟩ ∈ catalog.expand ⟨none, .needy⟩ ∧
      catalog.classify "Twin" = .known ⟨.mod, .solvable⟩ ∧ ¬ catalog.OneIdentity := by
  intro catalog mod
  have twin : catalog.Twofold "Twin" := ⟨by decide, by decide, by decide⟩
  have snapshot : (CatalogSnapshot.read
      ("\x7b\"solvable\":[" ++ mod ++ "],\"needy\":[" ++ mod ++ "]\x7d")).toOption =
        some ⟨[⟨"Twin", ""⟩], [⟨"Twin", ""⟩], []⟩ := by
    decide +kernel
  refine ⟨?_, ?_, by decide, by decide, ?_⟩
  · exact Catalog.read_of_snapshot snapshot
  · rw [Catalog.count_entries]
    decide
  · intro identity
    exact Catalog.oneIdentity_iff.1 identity "Twin" twin

end BombMission
