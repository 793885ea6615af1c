import BombMission.Mission.Written
import BombMission.Text.Numeral

/-!
# The generator setting

The host is started with one bomb only. The generator setting is the first bomb of the mission with
markers behind its own pools: how many bombs follow, the written form of each of them, and the
factory mode. Counts are words, so a number of bombs beyond the largest word is written as that word;
the bombs themselves follow all the same.
-/

namespace BombMission

open Text

def bombMarker (index : Nat) (bomb : Bomb) : Pool :=
  { count := 1, content := .serializedBomb index bomb.toJson.compact }

/-- The markers for the bombs after the first: their number, as far as a word goes, and each of them,
counted from one. -/
def extraMarkers : List Bomb → List Pool
  | [] => []
  | extra =>
    { count := min extra.length maxWord, content := .extraBombs } ::
      extra.mapIdx fun place bomb => bombMarker (place + 1) bomb

def factoryMarkers (mode : Option FactoryMode) : List Pool :=
  mode.toList.map fun mode => { count := mode.index, content := .factoryMode }

/-- The bomb that the host is started with. -/
def generatorSetting (first : Bomb) (extra : List Bomb) (mode : Option FactoryMode) : Bomb :=
  { first with pools := first.pools ++ extraMarkers extra ++ factoryMarkers mode }

end BombMission
