import BombMission.Files.Load
import BombMission.Proofs.Catalog.Lookup
import BombMission.Proofs.Json.Reading

/-!
# Snapshots are read back

A snapshot that was written is read as it was, whatever its ids and names are and whatever white space
was put between its parts. So the catalog that is read is the one that the entries and ids of the
snapshot fill, in their order, and the profile that is read has the ids of its list and its kind.

## Main results

* `CatalogSnapshot.reads` and `ProfileSnapshot.reads`: every spelling of a snapshot is read as the
  snapshot.
* `Catalog.get?_names_ofUpdates`: the display name of an id is the one that was given last.
* `Catalog.mem_entries_iff`: what a catalog lists.
* `snapshots_read_back`: what is read from a written catalog and from a written profile.
-/

namespace BombMission

open Json (Reads reads_text reads_byte reads_list reads_optional reads_record)

/-! ### Reading -/

theorem Entry.reads (entry : Entry) : Reads Entry.recordType.read entry.toJson entry := by
  have id : Reads (idField.read {}) (.string entry.id) { id := some entry.id } :=
    (reads_text entry.id).map fun id => Draft.mk (some id) none
  have name : Reads (nameField.read { id := some entry.id }) (.string entry.name)
      { id := some entry.id, name := some entry.name } :=
    (reads_text entry.name).map fun name => Draft.mk (some entry.id) (some name)
  exact reads_record (.cons rfl rfl id (.cons rfl rfl name .nil)) rfl

theorem CatalogSnapshot.reads (snapshot : CatalogSnapshot) :
    Reads CatalogSnapshot.recordType.read snapshot.toJson snapshot := by
  obtain ⟨solvable, needy, disabled⟩ := snapshot
  have entries : ∀ entries : List Entry,
      Reads (Json.readList Entry.recordType.read) (.list (entries.map Entry.toJson)) entries :=
    fun entries => reads_list fun entry _ => entry.reads
  have ids : Reads (Json.readList Json.readText) (.list (disabled.map Json.string)) disabled :=
    reads_list fun id _ => reads_text id
  have first : Reads (solvableField.read {}) (.list (solvable.map Entry.toJson))
      { solvable := some solvable } :=
    (entries solvable).map fun solvable => Draft.mk (some solvable) none none
  have second : Reads (needyField.read { solvable := some solvable })
      (.list (needy.map Entry.toJson)) { solvable := some solvable, needy := some needy } :=
    (entries needy).map fun needy => Draft.mk (some solvable) (some needy) none
  have third : Reads (disabledField.read { solvable := some solvable, needy := some needy })
      (.list (disabled.map Json.string)) ⟨some solvable, some needy, some disabled⟩ :=
    ids.map fun disabled => Draft.mk (some solvable) (some needy) (some disabled)
  exact reads_record (.cons rfl rfl first (.cons rfl rfl second (.cons rfl rfl third .nil))) rfl

theorem ProfileKind.reads (kind : ProfileKind) :
    Reads ProfileKind.read (.number kind.operation) kind := by
  intro before spelling rest blank spells ends
  have small : kind.operation < 256 := by cases kind <;> decide
  have known : ofOperation? kind.operation = some kind := ofOperation?_eq_some_iff.2 rfl
  have taken := reads_byte small before spelling rest blank spells ends
  simp [ProfileKind.read, taken, known, bind, Except.bind]

theorem ProfileSnapshot.reads (ids : List String) (kind : ProfileKind) :
    Reads ProfileSnapshot.recordType.read (ProfileSnapshot.mk (some ids) kind).toJson
      { disabled := some ids, kind } := by
  have list : Reads (Json.readOptional (Json.readList Json.readText))
      (.list (ids.map Json.string)) (some ids) :=
    reads_optional (reads_list fun id _ => reads_text id) (by simp)
  have first : Reads (disabledField.read {}) (.list (ids.map Json.string))
      { disabled := some (some ids) } :=
    list.map fun ids => Draft.mk (some ids) none
  have second : Reads (kindField.read { disabled := some (some ids) }) (.number kind.operation)
      { disabled := some (some ids), kind := some kind } :=
    kind.reads.map fun kind => Draft.mk (some (some ids)) (some kind)
  exact reads_record (.cons rfl rfl first (.cons rfl rfl second .nil)) rfl

/-! ### Filling -/

/-- What filling a catalog from a snapshot does, step by step. -/
def CatalogSnapshot.updates (snapshot : CatalogSnapshot) : List CatalogUpdate :=
  (snapshot.solvable.map fun entry => .add .solvable entry.id entry.name) ++
    (snapshot.needy.map fun entry => .add .needy entry.id entry.name) ++
      snapshot.disabled.map .disable

theorem CatalogSnapshot.catalog_eq_ofUpdates (snapshot : CatalogSnapshot) :
    snapshot.catalog = Catalog.ofUpdates snapshot.updates := by
  simp only [catalog, Catalog.ofUpdates, updates, List.foldl_append, List.foldl_map]
  rfl

/-- The name that the last entry for an id has. -/
def lastName (entries : List Entry) (id : String) : Option String :=
  (entries.reverse.find? fun entry => entry.id = id).map Entry.name

theorem lastName_concat (entries : List Entry) (last : Entry) (id : String) :
    lastName (entries ++ [last]) id =
      if id = last.id then some last.name else lastName entries id := by
  by_cases same : id = last.id
  · simp [lastName, same]
  · have other : last.id ≠ id := fun equal => same equal.symm
    simp [lastName, same, other]

/-- The entry that an update installs. -/
def CatalogUpdate.entry? : CatalogUpdate → Option Entry
  | add _ id name => some { id, name }
  | disable _ => none

theorem CatalogSnapshot.entries_updates (snapshot : CatalogSnapshot) :
    snapshot.updates.filterMap CatalogUpdate.entry? = snapshot.solvable ++ snapshot.needy := by
  simp [updates, CatalogUpdate.entry?, Function.comp_def]

namespace Catalog

theorem get?_names_update (catalog : Catalog) (update : CatalogUpdate) (id : String) :
    (catalog.update update).names.get? id =
      match update.entry? with
      | some entry => if id = entry.id then some entry.name else catalog.names.get? id
      | none => catalog.names.get? id := by
  cases update with
  | add kind added name => cases kind <;> simp [Catalog.update, addMod, CatalogUpdate.entry?]
  | disable added => rfl

/-- Of all names that an id was given, the last one counts. -/
theorem get?_names_ofUpdates (updates : List CatalogUpdate) (id : String) :
    (ofUpdates updates).names.get? id =
      lastName (updates.filterMap CatalogUpdate.entry?) id := by
  induction updates using List.reverseRecOn with
  | nil => rfl
  | append_singleton updates last ih =>
    rw [ofUpdates_concat, get?_names_update, ih, List.filterMap_append]
    cases found : last.entry? with
    | none => simp [found]
    | some entry => simp [found, lastName_concat]

/-- An id has a name as soon as it is installed. -/
theorem isSome_names_ofUpdates (updates : List CatalogUpdate) (id : String) :
    ((ofUpdates updates).names.get? id).isSome = true ↔
      id ∈ (ofUpdates updates).solvableMods ∨ id ∈ (ofUpdates updates).needyMods := by
  induction updates using List.reverseRecOn with
  | nil => simp [ofUpdates, vanilla]
  | append_singleton updates last ih =>
    rw [ofUpdates_concat]
    cases last with
    | add kind added name =>
      by_cases same : id = added
      · cases kind <;> simp [Catalog.update, addMod, same]
      · cases kind <;> simp [Catalog.update, addMod, same, ih]
    | disable added => exact ih

theorem mem_entries_iff {catalog : Catalog} {entry : Entry} :
    entry ∈ catalog.entries ↔
      (∃ m : VanillaModule, entry = { id := m.id, name := m.displayName }) ∨
        VanillaModule.ofId? entry.id = none ∧
          (entry.id ∈ catalog.solvableMods ∨ entry.id ∈ catalog.needyMods) ∧
          entry.name = catalog.displayName entry.id := by
  simp only [entries, List.mem_mergeSort, List.mem_append, List.mem_map, List.mem_filter,
    VanillaModule.mem_all, true_and, IdSet.mem_toList, Option.isNone_iff_eq_none]
  constructor
  · rintro (⟨m, rfl⟩ | ⟨id, ⟨installed, notVanilla⟩, rfl⟩)
    · exact .inl ⟨m, rfl⟩
    · exact .inr ⟨notVanilla, installed, rfl⟩
  · rintro (⟨m, rfl⟩ | ⟨notVanilla, installed, named⟩)
    · exact .inl ⟨m, rfl⟩
    · exact .inr ⟨entry.id, ⟨installed, notVanilla⟩, by rw [← named]⟩

end Catalog

theorem CatalogSnapshot.mem_entries_iff {snapshot : CatalogSnapshot} {entry : Entry} :
    entry ∈ (Catalog.ofUpdates snapshot.updates).entries ↔
      (∃ m : VanillaModule, entry = { id := m.id, name := m.displayName }) ∨
        VanillaModule.ofId? entry.id = none ∧
          ∃ name, lastName (snapshot.solvable ++ snapshot.needy) entry.id = some name ∧
            entry.name = if name = "" then entry.id else name := by
  rw [Catalog.mem_entries_iff, ← Catalog.isSome_names_ofUpdates, Catalog.displayName,
    Catalog.get?_names_ofUpdates, snapshot.entries_updates]
  cases lastName (snapshot.solvable ++ snapshot.needy) entry.id <;> simp

/-- A catalog that was written is read as the one that its entries and ids fill in their order. An id
is listed with the last name it was given, or with itself when that name is empty. A profile that was
written is read with its ids and its kind. It does not matter what white space stands between the parts;
the compact form and the indented one are two such texts. -/
theorem snapshots_read_back (snapshot : CatalogSnapshot) (ids : List String) (kind : ProfileKind)
    (path : String) :
    (∀ text, snapshot.toJson.IsTextOf text →
      Catalog.read text = .ok (Catalog.ofUpdates snapshot.updates)) ∧
    (∀ entry, entry ∈ (Catalog.ofUpdates snapshot.updates).entries ↔
      (∃ m : VanillaModule, entry = { id := m.id, name := m.displayName }) ∨
        VanillaModule.ofId? entry.id = none ∧
          ∃ name, lastName (snapshot.solvable ++ snapshot.needy) entry.id = some name ∧
            entry.name = if name = "" then entry.id else name) ∧
    (∀ text, (ProfileSnapshot.mk (some ids) kind).toJson.IsTextOf text →
      Profile.ofText path text = .ok { disabled := .ofList ids, kind }) ∧
    ∀ value : Json, value.IsTextOf value.compact ∧ value.IsTextOf value.indented := by
  refine ⟨?_, fun entry => snapshot.mem_entries_iff, ?_,
    fun value => ⟨value.isTextOf_compact, value.isTextOf_indented⟩⟩
  · intro text holds
    have read := Json.readWhole_of_isTextOf snapshot.reads holds
    rw [Catalog.read, CatalogSnapshot.read, read, ← snapshot.catalog_eq_ofUpdates]
    rfl
  · intro text holds
    have read := Json.readWhole_of_isTextOf (ProfileSnapshot.reads ids kind) holds
    rw [Profile.ofText, ProfileSnapshot.read, read]
    rfl

/-- A name given twice, with a quote, a control character and one beyond the first plane. -/
example :
    (Catalog.read
      (CatalogSnapshot.mk [⟨"B", "b"⟩] [⟨"B", "\"\x01𝄞"⟩] []).toJson.compact).toOption.map
        (fun catalog => catalog.displayName "B") = some "\"\x01𝄞" := by
  decide +kernel

end BombMission
