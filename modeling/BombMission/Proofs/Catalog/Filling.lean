import BombMission.Context
import Mathlib.Data.List.Induction

/-!
# How catalogs and registries are filled

A catalog is filled by updates and a registry by inserts, one after the other. What they hold in the
end depends on neither the order nor the number of updates: an id is in one of the sets of the catalog
when some update put it there, and a name has the profile of its last insert.

## Main results

* `Catalog.mem_ids_ofUpdates` and `ProfileRegistry.get?_ofInserts`: what is held in the end.
* `Catalog.unnamed_ofUpdates_congr`: catalogs that are filled by the same operations on the same ids are
  equal, but for their display names.
* `ProfileRegistry.ofInserts_congr`: so are registries whose last inserts are the same.
-/

namespace BombMission

/-! ### Catalogs -/

/-- The sets of ids that make up a catalog, each with the operation that fills it. -/
inductive CatalogOperation where
  | add (kind : ModuleKind)
  | disable
  deriving DecidableEq, Repr

inductive CatalogUpdate where
  | add (kind : ModuleKind) (id name : String)
  | disable (id : String)
  deriving DecidableEq, Repr

/-- An update without the display name. -/
def CatalogUpdate.target : CatalogUpdate → CatalogOperation × String
  | add kind id _ => (.add kind, id)
  | disable id => (.disable, id)

namespace Catalog

def update (catalog : Catalog) : CatalogUpdate → Catalog
  | .add kind id name => catalog.addMod kind id name
  | .disable id => catalog.disable id

def ofUpdates (updates : List CatalogUpdate) : Catalog :=
  updates.foldl update vanilla

theorem ofUpdates_concat (updates : List CatalogUpdate) (last : CatalogUpdate) :
    ofUpdates (updates ++ [last]) = (ofUpdates updates).update last := by
  simp [ofUpdates]

/-- The ids that an operation was used on. -/
def ids (catalog : Catalog) : CatalogOperation → IdSet
  | .add kind => catalog.mods kind
  | .disable => catalog.disabled

theorem mem_ids_update {catalog : Catalog} {update : CatalogUpdate} {operation : CatalogOperation}
    {id : String} :
    id ∈ (catalog.update update).ids operation ↔
      (operation, id) = update.target ∨ id ∈ catalog.ids operation := by
  cases update with
  | add kind added name =>
    cases operation with
    | add other =>
      cases kind <;> cases other <;>
        simp [Catalog.update, addMod, ids, mods, CatalogUpdate.target]
    | disable => cases kind <;> simp [Catalog.update, addMod, ids, CatalogUpdate.target]
  | disable added =>
    cases operation with
    | add other => cases other <;> simp [Catalog.update, disable, ids, mods, CatalogUpdate.target]
    | disable => simp [Catalog.update, disable, ids, CatalogUpdate.target]

/-- A catalog holds an id exactly where some update put it. -/
theorem mem_ids_ofUpdates {updates : List CatalogUpdate} {operation : CatalogOperation}
    {id : String} :
    id ∈ (ofUpdates updates).ids operation ↔
      (operation, id) ∈ updates.map CatalogUpdate.target := by
  induction updates using List.reverseRecOn with
  | nil =>
    cases operation with
    | add kind => cases kind <;> simp [ofUpdates, vanilla, ids, mods]
    | disable => simp [ofUpdates, vanilla, ids]
  | append_singleton updates last ih =>
    rw [ofUpdates_concat, mem_ids_update, ih]
    simp [or_comm]

/-- A catalog without display names, which only listings show. -/
def unnamed (catalog : Catalog) : Catalog :=
  { catalog with names := .empty }

theorem unnamed_congr {left right : Catalog}
    (same : ∀ operation, left.ids operation = right.ids operation) :
    left.unnamed = right.unnamed := by
  have solvable : left.solvableMods = right.solvableMods := same (.add .solvable)
  have needy : left.needyMods = right.needyMods := same (.add .needy)
  have disabled : left.disabled = right.disabled := same .disable
  simp only [unnamed, solvable, needy, disabled]

theorem unnamed_ofUpdates_congr {first second : List CatalogUpdate}
    (same : ∀ target, target ∈ first.map CatalogUpdate.target ↔
      target ∈ second.map CatalogUpdate.target) :
    (ofUpdates first).unnamed = (ofUpdates second).unnamed := by
  apply unnamed_congr
  intro operation
  apply IdSet.ext
  intro id
  rw [mem_ids_ofUpdates, mem_ids_ofUpdates, same]

end Catalog

/-! ### Registries -/

namespace ProfileRegistry

def ofInserts (inserts : List (String × Profile)) : ProfileRegistry :=
  inserts.foldl (fun registry row => registry.insert row.1 row.2) .empty

/-- The profile that was inserted last under a name. -/
def lastInsert (inserts : List (String × Profile)) (name : String) : Option Profile :=
  inserts.reverse.lookup name

theorem ofInserts_concat (inserts : List (String × Profile)) (last : String × Profile) :
    ofInserts (inserts ++ [last]) = (ofInserts inserts).insert last.1 last.2 := by
  simp [ofInserts]

theorem lastInsert_concat (inserts : List (String × Profile)) (last : String × Profile)
    (name : String) :
    lastInsert (inserts ++ [last]) name =
      if name = last.1 then some last.2 else lastInsert inserts name := by
  obtain ⟨key, profile⟩ := last
  by_cases equal : name = key
  · simp [lastInsert, equal]
  · have differs : (name == key) = false := beq_eq_false_iff_ne.2 equal
    simp [lastInsert, List.lookup_cons, equal, differs]

theorem get?_ofInserts (inserts : List (String × Profile)) (name : String) :
    (ofInserts inserts).get? name = lastInsert inserts name := by
  induction inserts using List.reverseRecOn with
  | nil => rfl
  | append_singleton inserts last ih =>
    rw [ofInserts_concat, IdMap.get?_insert, ih, lastInsert_concat]

theorem ofInserts_congr {first second : List (String × Profile)}
    (same : ∀ name, lastInsert first name = lastInsert second name) :
    ofInserts first = ofInserts second := by
  apply IdMap.ext
  intro name
  rw [get?_ofInserts, get?_ofInserts, same]

end ProfileRegistry

end BombMission
