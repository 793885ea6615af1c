import BombMission.Module.Class

/-!
# Aggregate pools

Six keywords stand for all modules of one kind, from the game, from mods or from both.
-/

namespace BombMission

/-- All modules of one kind: of one origin, or of both when none is given. -/
structure Aggregate where
  origin : Option ModuleOrigin
  kind : ModuleKind
  deriving DecidableEq, Repr

namespace Aggregate

def all : List Aggregate :=
  [⟨none, .solvable⟩, ⟨none, .needy⟩, ⟨some .vanilla, .solvable⟩, ⟨some .mod, .solvable⟩,
   ⟨some .vanilla, .needy⟩, ⟨some .mod, .needy⟩]

def keyword : Aggregate → String
  | ⟨none, .solvable⟩ => "ALL_SOLVABLE"
  | ⟨none, .needy⟩ => "ALL_NEEDY"
  | ⟨some .vanilla, .solvable⟩ => "ALL_VANILLA"
  | ⟨some .mod, .solvable⟩ => "ALL_MODS"
  | ⟨some .vanilla, .needy⟩ => "ALL_VANILLA_NEEDY"
  | ⟨some .mod, .needy⟩ => "ALL_MODS_NEEDY"

/-- What the aggregate stands for, as reports show it. -/
def description : Aggregate → String
  | ⟨none, .solvable⟩ => "[All solvable modules]"
  | ⟨none, .needy⟩ => "[All needy modules]"
  | ⟨some .vanilla, .solvable⟩ => "[All vanilla solvable modules]"
  | ⟨some .mod, .solvable⟩ => "[All mod solvable modules]"
  | ⟨some .vanilla, .needy⟩ => "[All vanilla needy modules]"
  | ⟨some .mod, .needy⟩ => "[All mod needy modules]"

/-- The name under which the host knows the aggregate. -/
def hostName : Aggregate → String
  | ⟨none, .solvable⟩ => "AllSolvable"
  | ⟨none, .needy⟩ => "AllNeedy"
  | ⟨some .vanilla, .solvable⟩ => "AllVanilla"
  | ⟨some .mod, .solvable⟩ => "AllMods"
  | ⟨some .vanilla, .needy⟩ => "AllVanillaNeedy"
  | ⟨some .mod, .needy⟩ => "AllModsNeedy"

/-- The aggregate with this keyword, letter for letter. -/
def ofKeyword? (text : String) : Option Aggregate :=
  all.find? fun aggregate => aggregate.keyword = text

/-- Whether the aggregate takes in modules of this origin. -/
def includes (aggregate : Aggregate) (origin : ModuleOrigin) : Bool :=
  aggregate.origin = none || aggregate.origin = some origin

theorem mem_all (aggregate : Aggregate) : aggregate ∈ all := by
  rcases aggregate with ⟨_ | _ | _, _ | _⟩ <;> decide

theorem ofKeyword?_keyword (aggregate : Aggregate) :
    ofKeyword? aggregate.keyword = some aggregate := by
  rcases aggregate with ⟨_ | _ | _, _ | _⟩ <;> decide

theorem keyword_of_ofKeyword? {text : String} {aggregate : Aggregate}
    (found : ofKeyword? text = some aggregate) : aggregate.keyword = text := by
  simpa using List.find?_some found

end Aggregate

end BombMission
