import BombMission.Json.Value
import BombMission.Mission.Basic

/-!
# The written form of missions

Missions are handed on as JSON. A record writes its fields in the order of their declaration; a
choice between forms is a record with the name of the form as its only key, or just that name when
the form carries nothing.
-/

namespace BombMission

namespace Json

/-- A form of a choice and what it carries. -/
def form (name : String) (value : Json) : Json :=
  record [(name, value)]

end Json

open Json (form optional)

def ModuleRef.toJson (m : ModuleRef) : Json :=
  .record [("Id", .string m.id), ("Class", .string m.moduleClass.hostName)]

def modulesToJson (modules : List ModuleRef) : Json :=
  .list (modules.map ModuleRef.toJson)

def PoolContent.toJson : PoolContent → Json
  | aggregate a => form "Aggregate" (.string a.hostName)
  | profile name kind modules =>
    form "Profile" (.record
      [("name", .string name), ("needy", .boolean (kind = .needy)),
       ("modules", modulesToJson modules)])
  | explicit modules => form "Explicit" (modulesToJson modules)
  | extraBombs => .string "ExtraBombs"
  | serializedBomb index config =>
    form "SerializedBomb" (.record [("index", .number index), ("config", .string config)])
  | factoryMode => .string "FactoryMode"

def Pool.toJson (pool : Pool) : Json :=
  .record
    [("Count", .number pool.count), ("Unique", .boolean pool.unique),
     ("Content", pool.content.toJson)]

def Bomb.toJson (bomb : Bomb) : Json :=
  .record
    [("TimeLimit", .number bomb.timeLimit),
     ("NumStrikes", .number bomb.strikeLimit),
     ("TimeBeforeNeedyActivation", optional .number bomb.needyActivationTime),
     ("OptionalWidgetCount", optional .number bomb.widgetCount),
     ("FrontFaceOnly", .boolean bomb.frontFaceOnly),
     ("ComponentPools", .list (bomb.pools.map Pool.toJson))]

def RuleSeed.toJson : RuleSeed → Json
  | fixed seed => form "Fixed" (.number seed)
  | random => .string "Random"

def RuleSeedSetting.toJson (setting : RuleSeedSetting) : Json :=
  .record [("Requested", setting.requested.toJson), ("Value", .number setting.value)]

def Mission.toJson (mission : Mission) : Json :=
  .record
    [("DisplayName", .string mission.displayName),
     ("Bombs", .list (mission.bombs.map Bomb.toJson)),
     ("GeneratorSetting", mission.generatorSetting.toJson),
     ("PacingEventsEnabled", .boolean mission.pacingEventsEnabled),
     ("FactoryMode", optional (fun mode => .string mode.hostName) mission.factoryMode),
     ("RuleSeed", optional RuleSeedSetting.toJson mission.ruleSeed),
     ("ModuleProfiles",
       .list (mission.moduleProfiles.map fun names => .list (names.map Json.string)))]

end BombMission
