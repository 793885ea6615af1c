import BombMission.Catalog

/-!
# Profiles

A profile is a named set of disabled modules; a pool may ask for the modules of one kind that a
profile leaves enabled. An *expert* profile selects the modules an expert knows, a *defuser* profile
hides modules from the defuser.
-/

namespace BombMission

inductive ProfileKind where
  | expert
  | defuser
  deriving DecidableEq, Repr

/-- The number a profile file gives for the kind. -/
def ProfileKind.operation : ProfileKind → Nat
  | .expert => 0
  | .defuser => 1

def ProfileKind.ofOperation? : Nat → Option ProfileKind
  | 0 => some .expert
  | 1 => some .defuser
  | _ => none

/-- What a number without a kind is refused with. -/
def ProfileKind.unknownOperation (n : Nat) : String :=
  "unknown profile operation " ++ toString n

theorem ProfileKind.ofOperation?_eq_some_iff {n : Nat} {kind : ProfileKind} :
    ofOperation? n = some kind ↔ n = kind.operation := by
  unfold ofOperation?
  split <;> cases kind <;> simp_all [operation]

/-- A set of disabled modules and how it was made. -/
structure Profile where
  disabled : IdSet
  kind : ProfileKind
  deriving DecidableEq

def Profile.enabledModules (profile : Profile) (catalog : Catalog) (kind : ModuleKind) :
    List ModuleRef :=
  (catalog.enabled kind).filter fun m => m.id ∉ profile.disabled

/-- Whether the profile is worth offering for modules of this kind: an expert profile always is, a
defuser profile only when it disables one of them. -/
def Profile.isOfferedFor (profile : Profile) (catalog : Catalog) (kind : ModuleKind) : Bool :=
  profile.kind = .expert || profile.disabled.toList.any (catalog.lists kind)

abbrev ProfileRegistry := IdMap Profile

/-- The word before the name in the pool keyword of a profile. -/
def profileKeyword : ModuleKind → String
  | .solvable => "profile:"
  | .needy => "needyprofile:"

/-- The keywords for one profile that are worth offering. -/
def Profile.keywords (profile : Profile) (catalog : Catalog) (name : String) : List Entry :=
  (if profile.isOfferedFor catalog .solvable then
    [{ id := profileKeyword .solvable ++ name
       name := name ++ " (solvable modules enabled by profile)" }] else []) ++
  (if profile.isOfferedFor catalog .needy then
    [{ id := profileKeyword .needy ++ name
       name := name ++ " (needy modules enabled by profile)" }] else [])

/-- The keywords worth offering, in order of profile names. -/
def ProfileRegistry.keywords (registry : ProfileRegistry) (catalog : Catalog) : List Entry :=
  registry.rows.flatMap fun row => row.2.keywords catalog row.1

end BombMission
