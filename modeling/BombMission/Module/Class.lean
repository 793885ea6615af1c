/-!
# Kinds of modules

A module on a bomb is either *solvable*, and the bomb needs it solved, or *needy*, and it asks for
attention until the bomb is done. It is part of the game itself (*vanilla*) or added to it by a mod.
-/

namespace BombMission

inductive ModuleKind where
  | solvable
  | needy
  deriving DecidableEq, Repr

inductive ModuleOrigin where
  | vanilla
  | mod
  deriving DecidableEq, Repr

structure ModuleClass where
  origin : ModuleOrigin
  kind : ModuleKind
  deriving DecidableEq, Repr

/-- The name under which the host knows the class. -/
def ModuleClass.hostName : ModuleClass → String
  | ⟨.vanilla, .solvable⟩ => "VanillaSolvable"
  | ⟨.vanilla, .needy⟩ => "VanillaNeedy"
  | ⟨.mod, .solvable⟩ => "ModSolvable"
  | ⟨.mod, .needy⟩ => "ModNeedy"

/-- A module a pool may draw, with the class the catalog gave it. -/
structure ModuleRef where
  id : String
  moduleClass : ModuleClass
  deriving DecidableEq, Repr

def ModuleRef.isSolvable (m : ModuleRef) : Bool :=
  m.moduleClass.kind = .solvable

theorem ModuleClass.hostName_injective {a b : ModuleClass} (same : a.hostName = b.hostName) :
    a = b := by
  rcases a with ⟨_ | _, _ | _⟩ <;> rcases b with ⟨_ | _, _ | _⟩ <;> simp_all [hostName]

end BombMission
