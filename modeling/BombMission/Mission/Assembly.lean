import BombMission.Mission.Generator
import BombMission.Outline

/-!
# Making missions from outlines

The rule seed is settled first, since a random one is drawn even when there is no mission in the
end. A mission is made exactly when nothing was wrong.
-/

namespace BombMission

variable {σ : Type} [RandomSource σ]

def missionName : String := "Custom Freeplay"

/-- The greatest seed that is drawn for a request for a random one. -/
def maxRandomRuleSeed : Nat := 999

/-- The seed to use for a request. A random one is drawn. -/
def RuleSeed.settle (requested : RuleSeed) (source : σ) : RuleSeedSetting × σ :=
  match requested with
  | fixed seed => ({ requested, value := seed }, source)
  | random =>
    let (drawn, source) := RandomSource.below maxRandomRuleSeed source
    ({ requested, value := 1 + drawn }, source)

/-- The rule seed of a mission, when it asks for one and the host can seed its rules. -/
def settleRuleSeed (limits : HostLimits) (requested : Option RuleSeed) (source : σ) :
    Option RuleSeedSetting × σ :=
  match requested with
  | none => (none, source)
  | some requested =>
    if limits.ruleSeed then
      let (setting, source) := requested.settle source
      (some setting, source)
    else (none, source)

namespace Outline

def problems (outline : Outline) (limits : HostLimits) : List Diagnostic :=
  outline.diagnostics ++
    if outline.ruleSeed.isSome && !limits.ruleSeed then [.ruleSeedUnavailable] else []

/-- The mission an outline makes, given its first bomb and its rule seed. -/
def mission (outline : Outline) (first : PlannedBomb) (extra : List PlannedBomb)
    (ruleSeed : Option RuleSeedSetting) : Mission :=
  let bombs := (first :: extra).map PlannedBomb.bomb
  { displayName := missionName
    bombs
    generatorSetting :=
      BombMission.generatorSetting first.bomb (extra.map PlannedBomb.bomb) outline.factoryMode
    pacingEventsEnabled := outline.pacingEventsEnabled
    factoryMode := outline.factoryMode
    ruleSeed
    moduleProfiles := (first :: extra).map PlannedBomb.profiles }

/-- The mission an outline makes when nothing is wrong with it. -/
def toMission (outline : Outline) (limits : HostLimits) (ruleSeed : Option RuleSeedSetting) :
    Except CompileError Mission :=
  match outline.bombs, outline.problems limits with
  | [], [] => .error { diagnostics := [.noSolvableModules none] }
  | first :: extra, [] => .ok (outline.mission first extra ruleSeed)
  | _, problems => .error { diagnostics := problems }

/-- Makes a mission of an outline. -/
def assemble (outline : Outline) (limits : HostLimits) (source : σ) :
    Except CompileError Mission × σ :=
  -- drawn before anything is decided, so a failure leaves the source as a success does
  let (ruleSeed, source) := settleRuleSeed limits outline.ruleSeed source
  (outline.toMission limits ruleSeed, source)

end Outline

end BombMission
