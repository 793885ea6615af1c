import BombMission.Bomb
import BombMission.Mission.Factory

/-!
# Compiled missions

What a host needs to start a mission: the bombs in order, the settings of the mission as a whole,
and the *generator setting*, the one bomb that the host is started with and that carries all others
in its markers.
-/

namespace BombMission

inductive RuleSeed where
  | fixed (seed : Nat)
  | random
  deriving DecidableEq, Repr

structure RuleSeedSetting where
  requested : RuleSeed
  value : Nat
  deriving DecidableEq, Repr

/-- A compiled mission. The profiles of a bomb are the names its pools refer to. -/
structure Mission where
  displayName : String
  bombs : List Bomb
  generatorSetting : Bomb
  pacingEventsEnabled : Bool
  factoryMode : Option FactoryMode
  ruleSeed : Option RuleSeedSetting
  moduleProfiles : List (List String)
  deriving DecidableEq, Repr

/-- The seed the host has to apply before the mission starts, when the mission asks for one. -/
def Mission.appliedRuleSeed (mission : Mission) : Option Nat :=
  mission.ruleSeed.map RuleSeedSetting.value

end BombMission
