import BombMission.IdMap
import BombMission.Module.Aggregate
import BombMission.Module.Vanilla

/-!
# The module catalog

A catalog says which modules a host can put on a bomb: the vanilla modules, which are always there,
and the installed mods, each solvable or needy, some of them disabled. Every question about it is
answered from ordered sets, so the order in which mods were added does not matter; of several
display names for an id the last one counts.
-/

namespace BombMission

structure Entry where
  id : String
  name : String
  deriving DecidableEq, Repr

/-- What a catalog says about an id written in a pool. -/
inductive Classification where
  | known (moduleClass : ModuleClass)
  | disabled
  | unknown
  deriving DecidableEq, Repr

/-- The installed mods beside the vanilla modules. -/
structure Catalog where
  solvableMods : IdSet := .empty
  needyMods : IdSet := .empty
  disabled : IdSet := .empty
  names : IdMap String := .empty

namespace Catalog

def vanilla : Catalog := {}

instance : Inhabited Catalog := ⟨vanilla⟩

/-- The installed mods of one kind, enabled or not. -/
def mods (catalog : Catalog) : ModuleKind → IdSet
  | .solvable => catalog.solvableMods
  | .needy => catalog.needyMods

/-- Installs a mod of one kind under a display name. -/
def addMod (catalog : Catalog) (kind : ModuleKind) (id name : String) : Catalog :=
  let catalog := { catalog with names := catalog.names.insert id name }
  match kind with
  | .solvable => { catalog with solvableMods := catalog.solvableMods.insert id }
  | .needy => { catalog with needyMods := catalog.needyMods.insert id }

def disable (catalog : Catalog) (id : String) : Catalog :=
  { catalog with disabled := catalog.disabled.insert id }

/-- Looks an id up letter for letter: a vanilla module wins over a mod, and a solvable mod over a
needy one. -/
def classify (catalog : Catalog) (id : String) : Classification :=
  match VanillaModule.ofId? id with
  | some m => .known m.ref.moduleClass
  | none =>
    -- an id is disabled only when it is installed
    if id ∉ catalog.solvableMods ∧ id ∉ catalog.needyMods then .unknown
    else if id ∈ catalog.disabled then .disabled
    else if id ∈ catalog.solvableMods then .known ⟨.mod, .solvable⟩
    else .known ⟨.mod, .needy⟩

/-- The mods of one kind that pools may draw, in order of their ids. -/
def enabledMods (catalog : Catalog) (kind : ModuleKind) : List String :=
  (catalog.mods kind).toList.filter fun id =>
    id ∉ catalog.disabled && (VanillaModule.ofId? id).isNone

/-- The modules an aggregate stands for: vanilla modules in the order of the game, then enabled mods
in order of their ids. -/
def expand (catalog : Catalog) (aggregate : Aggregate) : List ModuleRef :=
  (if aggregate.includes .vanilla then
    (VanillaModule.ofKind aggregate.kind).map VanillaModule.ref else []) ++
  (if aggregate.includes .mod then
    (catalog.enabledMods aggregate.kind).map fun id => ⟨id, ⟨.mod, aggregate.kind⟩⟩ else [])

/-- Every module of one kind that pools may draw. -/
def enabled (catalog : Catalog) (kind : ModuleKind) : List ModuleRef :=
  catalog.expand ⟨none, kind⟩

/-- Whether an id names a module of this kind, enabled or not. -/
def lists (catalog : Catalog) (kind : ModuleKind) (id : String) : Bool :=
  (VanillaModule.ofId? id).any (fun m => m.kind = kind) || id ∈ catalog.mods kind

/-- The display name of a mod, which is its id when it has none of its own. -/
def displayName (catalog : Catalog) (id : String) : String :=
  match catalog.names.get? id with
  | none => id
  | some name => if name = "" then id else name

/-- Every id a pool may name, enabled or not, in order of ids. -/
def entries (catalog : Catalog) : List Entry :=
  let vanilla := VanillaModule.all.map fun m => { id := m.id, name := m.displayName : Entry }
  let installed := catalog.solvableMods.toList ++ catalog.needyMods.toList
  let mods := (installed.filter fun id => (VanillaModule.ofId? id).isNone).map fun id =>
    { id, name := catalog.displayName id : Entry }
  (vanilla ++ mods).mergeSort fun a b => a.id ≤ b.id

theorem entries_pairwise (catalog : Catalog) :
    catalog.entries.Pairwise fun a b => a.id ≤ b.id := by
  have sorted := @List.pairwise_mergeSort Entry (fun a b => decide (a.id ≤ b.id))
    (fun a b c first second => by
      simp only [decide_eq_true_eq] at *
      exact String.le_trans first second)
    (fun a b => by simpa using String.le_total a.id b.id)
  exact (sorted _).imp of_decide_eq_true

theorem expand_both (catalog : Catalog) (kind : ModuleKind) :
    catalog.expand ⟨none, kind⟩ =
      catalog.expand ⟨some .vanilla, kind⟩ ++ catalog.expand ⟨some .mod, kind⟩ := by
  simp [expand, Aggregate.includes]

end Catalog

end BombMission
