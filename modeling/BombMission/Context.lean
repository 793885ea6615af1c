import BombMission.Profile

/-!
# Compilation context

What a compilation knows beside the text: the catalog, the profiles and the limits of the host.
-/

namespace BombMission

structure HostLimits where
  /-- The most modules that fit on a bomb. -/
  maxModules : Nat := 11
  multipleBombs : Bool := true
  factory : Bool := true
  ruleSeed : Bool := false
  deriving DecidableEq, Repr

/-- Everything outside the text that a compilation depends on. -/
structure Context where
  catalog : Catalog := .vanilla
  profiles : ProfileRegistry := .empty
  limits : HostLimits := {}

end BombMission
