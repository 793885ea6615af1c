import BombMission.Module.Class

/-!
# Vanilla modules

The fourteen modules of the game itself. They are always installed and cannot be disabled; a mod
that takes the id of one of them is never offered.
-/

namespace BombMission

inductive VanillaModule where
  | bigButton
  | keypad
  | maze
  | memory
  | morse
  | password
  | simon
  | venn
  | whosOnFirst
  | wireSequence
  | wires
  | needyCapacitor
  | needyKnob
  | needyVentGas
  deriving DecidableEq, Repr

namespace VanillaModule

def kind : VanillaModule → ModuleKind
  | needyCapacitor | needyKnob | needyVentGas => .needy
  | _ => .solvable

def id : VanillaModule → String
  | bigButton => "BigButton"
  | keypad => "Keypad"
  | maze => "Maze"
  | memory => "Memory"
  | morse => "Morse"
  | password => "Password"
  | simon => "Simon"
  | venn => "Venn"
  | whosOnFirst => "WhosOnFirst"
  | wireSequence => "WireSequence"
  | wires => "Wires"
  | needyCapacitor => "NeedyCapacitor"
  | needyKnob => "NeedyKnob"
  | needyVentGas => "NeedyVentGas"

/-- The name of the module as the game shows it. -/
def displayName : VanillaModule → String
  | bigButton => "The Button"
  | simon => "Simon Says"
  | whosOnFirst => "Who's On First"
  | morse => "Morse Code"
  | venn => "Complicated Wires"
  | wireSequence => "Wire Sequence"
  | needyCapacitor => "Capacitor Discharge"
  | needyKnob => "Knob"
  | needyVentGas => "Venting Gas"
  | other => other.id

/-- Every vanilla module in the order of the game, the solvable ones first. -/
def all : List VanillaModule :=
  [bigButton, keypad, maze, memory, morse, password, simon, venn, whosOnFirst, wireSequence, wires,
   needyCapacitor, needyKnob, needyVentGas]

/-- The vanilla modules of one kind in the order of the game. -/
def ofKind (kind : ModuleKind) : List VanillaModule :=
  all.filter fun m => m.kind = kind

/-- The vanilla module with this id, letter for letter. -/
def ofId? (id : String) : Option VanillaModule :=
  all.find? fun m => m.id = id

def ref (m : VanillaModule) : ModuleRef :=
  { id := m.id, moduleClass := { origin := .vanilla, kind := m.kind } }

theorem mem_all (m : VanillaModule) : m ∈ all := by
  cases m <;> decide

theorem ofId?_id (m : VanillaModule) : ofId? m.id = some m := by
  cases m <;> decide

theorem id_of_ofId? {id : String} {m : VanillaModule} (found : ofId? id = some m) : m.id = id := by
  simpa using List.find?_some found

end VanillaModule

end BombMission
